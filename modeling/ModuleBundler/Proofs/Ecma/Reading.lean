import ModuleBundler.Ecma.Grammar.Whole
import ModuleBundler.Proofs.Ecma.Literal

namespace ModuleBundler.Ecma

section Scan

/-- Whether a punctuator may start with the character. -/
def startsMark (c : Char) : Bool :=
  !(c = '\x22' || c = '\x27' || isNameStart c || c = '\\' || c.isDigit || c = '.' || c = '\x60' ||
    c = '#')

theorem scan_mark {c : Char} {cs t : List Char} {m : Mark} (hc : startsMark c = true)
    (hm : mark? (c :: cs) = some (m, t)) : scan (c :: cs) = (.mark m, t) := by
  simp only [startsMark, Bool.not_eq_true', Bool.or_eq_false_iff, decide_eq_false_iff_not] at hc
  simp [scan, hc, hm]

theorem scan_literal (v : String) (t : List Char) :
    scan ((literal v).toList ++ t) = (.string v, t) := by
  simp [literal, literalChars, scan, stringValue?_literal]

/-- No word goes on with the text. -/
def EndsWord (t : List Char) : Prop := ∀ c ∈ t.head?, isNamePart c = false ∧ c ≠ '\\'

theorem endsWord_cons {c : Char} (h : isNamePart c = false ∧ c ≠ '\\') (cs : List Char) :
    EndsWord (c :: cs) := by
  rintro d ⟨⟩
  exact h

theorem word?_append {c : Char} {w t : List Char} (hw : isIdentifierName (c :: w) = true)
    (ht : EndsWord t) :
    word? (c :: w ++ t) = some (⟨String.ofList (c :: w), false⟩, t) := by
  simp only [isIdentifierName, Bool.and_eq_true, List.all_eq_true] at hw
  obtain ⟨hstart, hparts⟩ := hw
  have hall : ∀ d ∈ c :: w, isNamePart d = true :=
    List.forall_mem_cons.mpr ⟨isNamePart_of_isNameStart hstart, hparts⟩
  have hrest : t.takeWhile isNamePart = [] ∧ t.dropWhile isNamePart = t := by
    cases t with
    | nil => exact ⟨rfl, rfl⟩
    | cons d t => simp [(ht d rfl).1]
  have hslash : t.head? ≠ some '\\' := fun h => (ht _ h).2 rfl
  have hplain : (c :: w ++ t).takeWhile isNamePart = c :: w := by
    rw [List.takeWhile_append_of_pos hall, hrest.1, List.append_nil]
  have hbehind : (c :: w ++ t).dropWhile isNamePart = t := by
    rw [List.dropWhile_append_of_pos hall, hrest.2]
  simp only [word?]
  rw [hplain, hbehind]
  simp [hslash, hstart]

theorem scan_word {w t : List Char} (hw : isIdentifierName w = true)
    (ht : EndsWord t) :
    scan (w ++ t) = (.word ⟨String.ofList w, false⟩, t) := by
  cases w with
  | nil => cases hw
  | cons c w =>
    have hstart : isNameStart c = true := (Bool.and_eq_true_iff.mp hw).1
    have hquote : ¬(c = '\x22' ∨ c = '\x27') := by
      rintro (rfl | rfl) <;> exact absurd hstart (by decide)
    have hword := word?_append hw ht
    rw [List.cons_append] at hword ⊢
    simp [scan, hquote, hstart, hword]

end Scan

namespace Cursor

/-- No gap stands at the front of the text. -/
def Begins (cs : List Char) : Prop :=
  ∀ c ∈ cs.head?, isLineEnd c = false ∧ isGapChar c = false ∧ c ≠ '/'

theorem begins_cons {c : Char} (h : isLineEnd c = false ∧ isGapChar c = false ∧ c ≠ '/')
    (cs : List Char) : Begins (c :: cs) := by
  rintro d ⟨⟩
  exact h

instance : DecidablePred Begins
  | [] => isTrue nofun
  | c :: cs =>
    decidable_of_iff (isLineEnd c = false ∧ isGapChar c = false ∧ c ≠ '/')
      ⟨fun h => begins_cons h cs, fun h => h c rfl⟩

theorem begins_append {cs : List Char} (hne : cs ≠ []) (h : Begins cs) (t : List Char) :
    Begins (cs ++ t) := by
  cases cs with
  | nil => exact absurd rfl hne
  | cons c cs => exact begins_cons (h c rfl) (cs ++ t)

theorem begins_literal (v : String) (t : List Char) : Begins ((literal v).toList ++ t) := by
  simp only [literal, literalChars, String.toList_ofList, List.cons_append]
  exact begins_cons (by decide) _

theorem skipGap_of_begins {cs : List Char} (h : Begins cs) (onNewLine : Bool) :
    skipGap false .blank onNewLine cs = some (onNewLine, cs) := by
  cases cs with
  | nil => rfl
  | cons c cs =>
    obtain ⟨hend, hgap, hslash⟩ := h c rfl
    have hcomment : opensLineComment false onNewLine (c :: cs) = false := by
      simp [opensLineComment, Text.stripStart, Ne.symm hslash]
    simp [skipGap, hend, hgap, hcomment, hslash]

theorem ofText_of_begins {cs t : List Char} {k : Kind} (h : Begins cs) (hscan : scan cs = (k, t))
    (onNewLine : Bool) : ofText false onNewLine cs = ⟨⟨k, onNewLine, cs⟩, t⟩ := by
  rw [ofText, skipGap_of_begins h]
  simp only [here, hscan]

theorem ofText_space {cs : List Char} (h : Begins cs) (onNewLine : Bool) :
    ofText false onNewLine (' ' :: cs) = ofText false onNewLine cs := by
  have hgap : isGapChar ' ' = true := by decide
  simp [ofText, skipGap, isLineEnd, hgap, skipGap_of_begins h]

theorem ofText_lineFeed {cs : List Char} (h : Begins cs) (onNewLine : Bool) :
    ofText false onNewLine ('\n' :: cs) = ofText false true cs := by
  simp [ofText, skipGap, isLineEnd, skipGap_of_begins h]

/-- A punctuator of one character with which no longer one begins. -/
def lone? : Char → Option Mark
  | '(' => some .openParen
  | ')' => some .closeParen
  | '[' => some .openBracket
  | ']' => some .closeBracket
  | '\x7b' => some .openBrace
  | '\x7d' => some .closeBrace
  | ';' => some .semicolon
  | ',' => some .comma
  | ':' => some .colon
  | _ => none

theorem ofText_lone (c : Char) {m : Mark} (h : lone? c = some m) (onNewLine : Bool)
    (cs : List Char) : ofText false onNewLine (c :: cs) = ⟨⟨.mark m, onNewLine, c :: cs⟩, cs⟩ := by
  unfold lone? at h
  split at h
  case h_10 => cases h
  all_goals
    cases h
    exact ofText_of_begins (begins_cons (by decide) cs) (scan_mark (by decide) rfl) onNewLine

theorem ofText_literal (onNewLine : Bool) (v : String) (t : List Char) :
    ofText false onNewLine ((literal v).toList ++ t) =
      ⟨⟨.string v, onNewLine, (literal v).toList ++ t⟩, t⟩ :=
  ofText_of_begins (begins_literal v t) (scan_literal v t) onNewLine

/-- From a place of a module up to another one stand tokens of the given kinds. -/
def Spans : Cursor → List Kind → Cursor → Prop
  | c, [], d => c = d
  | c, k :: ks, d => c.token.kind = k ∧ (c.next false).Spans ks d

theorem spans_append {ks ls : List Kind} :
    Spans c (ks ++ ls) d ↔ ∃ e, Spans c ks e ∧ Spans e ls d := by
  induction ks generalizing c with
  | nil => simp [Spans]
  | cons k ks ih => simp [Spans, ih, and_assoc]

theorem spans_cons {cs t : List Char} {k : Kind} (hb : Begins cs) (hscan : scan cs = (k, t))
    (h : Spans (ofText false false t) ks d) (onNewLine : Bool) :
    Spans (ofText false onNewLine cs) (k :: ks) d := by
  rw [ofText_of_begins hb hscan]
  exact ⟨rfl, h⟩

theorem spans_lone (c : Char) {m : Mark} (hm : lone? c = some m) (onNewLine : Bool)
    {cs : List Char} (h : Spans (ofText false false cs) ks d) :
    Spans (ofText false onNewLine (c :: cs)) (.mark m :: ks) d := by
  rw [ofText_lone c hm]
  exact ⟨rfl, h⟩

theorem spans_literal (v : String) (onNewLine : Bool) {cs : List Char}
    (h : Spans (ofText false false cs) ks d) :
    Spans (ofText false onNewLine ((literal v).toList ++ cs)) (.string v :: ks) d :=
  spans_cons (begins_literal v cs) (scan_literal v cs) h onNewLine

theorem spans_word (w : String) (hw : isIdentifierName w.toList = true) (hb : Begins w.toList)
    (onNewLine : Bool) {cs : List Char} (hcs : EndsWord cs)
    (h : Spans (ofText false false cs) ks d) :
    Spans (ofText false onNewLine (w.toList ++ cs)) (.word ⟨w, false⟩ :: ks) d := by
  have hne : w.toList ≠ [] := by
    intro hnil
    rw [hnil] at hw
    cases hw
  have hscan := scan_word hw hcs
  rw [String.ofList_toList] at hscan
  exact spans_cons (begins_append hne hb cs) hscan h onNewLine

theorem spans_space {cs : List Char} (hb : Begins cs) (h : Spans (ofText false false cs) ks d) :
    Spans (ofText false false (' ' :: cs)) ks d := by
  rwa [ofText_space hb]

end Cursor

namespace Reader

section Apply

variable (x : Context) (c : Cursor)

@[simp] theorem pure_apply (a : α) : (pure a : Reader α) x c = some (a, c) := rfl

@[simp] theorem bind_apply (p : Reader α) (f : α → Reader β) :
    (p >>= f) x c = (p x c).bind fun r => f r.1 x r.2 := by
  simp only [bind]
  cases p x c <;> rfl

@[simp] theorem token_apply : token x c = some (c.token, c) := rfl

@[simp] theorem nextToken_apply :
    nextToken x c = some ((c.next x.dialect.script).token, c) := rfl

@[simp] theorem rest_apply : rest x c = some (c.rest, c) := rfl

@[simp] theorem context_apply : context x c = some (x, c) := rfl

@[simp] theorem advance_apply : advance x c = some ((), c.next x.dialect.script) := rfl

@[simp] theorem check_apply (b : Bool) : check b x c = if b then some ((), c) else none := by
  cases b <;> rfl

@[simp] theorem ahead_apply (p : Reader α) : ahead p x c = some ((p x c).map Prod.fst, c) := rfl

/-- Looking ahead always comes to an answer. -/
@[simp] theorem foresee_apply (p : Reader Bool) :
    foresee p x c = some (((p x c).map Prod.fst).getD false, c) := by
  unfold foresee
  cases p x c <;> rfl

@[simp] theorem isAt_apply (m : Mark) : isAt m x c = some (c.token.isMark m, c) := rfl

@[simp] theorem isAtWord_apply (text : String) :
    isAtWord text x c = some (c.token.isWord text, c) := rfl

@[simp] theorem isTyped_apply : isTyped x c = some (x.dialect.typed, c) := rfl

@[simp] theorem isJsx_apply : isJsx x c = some (x.dialect.jsx, c) := rfl

@[simp] theorem expect_apply (m : Mark) :
    expect m x c = if c.token.isMark m then some ((), c.next x.dialect.script) else none := by
  unfold expect
  cases h : c.token.isMark m <;> simp [h]

@[simp] theorem expectWord_apply (text : String) :
    expectWord text x c =
      if c.token.isWord text then some ((), c.next x.dialect.script) else none := by
  unfold expectWord
  cases h : c.token.isWord text <;> simp [h]

@[simp] theorem eat_apply (m : Mark) :
    eat m x c =
      if c.token.isMark m then some (true, c.next x.dialect.script) else some (false, c) := by
  unfold eat
  cases h : c.token.isMark m <;> simp [h]

@[simp] theorem eatWord_apply (text : String) :
    eatWord text x c =
      if c.token.isWord text then some (true, c.next x.dialect.script) else some (false, c) := by
  unfold eatWord
  cases h : c.token.isWord text <;> simp [h]

end Apply

@[simp] theorem isMark_eq (t : Token) (m : Mark) : t.isMark m = decide (t.kind = .mark m) := rfl

@[simp] theorem isWord_eq (t : Token) (text : String) :
    t.isWord text = decide (t.kind = .word ⟨text, false⟩) := rfl

theorem bind_of {p : Reader α} {f : α → Reader β} (h : p x c = some (a, d)) :
    (p >>= f) x c = f a x d := by
  simp [h]

section Many

theorem iterate_done {step : α → Reader (Option α)} (h : step a x c = some (none, d))
    (hlimit : 0 < limit) : iterate step limit a x c = some (a, d) := by
  cases limit with
  | zero => cases hlimit
  | succ limit => simp [iterate, h]

/-- Reading parts one after the other from the first place gives the values; at the last place
there are no more. -/
inductive ReadsAll (p : Reader (Option α)) (x : Context) : Cursor → List α → Cursor → Prop where
  | done (h : p x c = some (none, d)) : ReadsAll p x c [] d
  | more (h : p x c = some (some a, d)) (rest : ReadsAll p x d as e) : ReadsAll p x c (a :: as) e

theorem ReadsAll.iterate_eq {p : Reader (Option α)} {x : Context} (h : ReadsAll p x c as d)
    (hlimit : as.length < limit) (seen : List α) :
    iterate (fun seen => do return (← p).map (· :: seen)) limit seen x c =
      some (as.reverse ++ seen, d) := by
  induction h generalizing limit seen with
  | done h => exact iterate_done (by simp [h]) (Nat.zero_lt_of_lt hlimit)
  | @more c a d as e h _ ih =>
    cases limit with
    | zero => cases hlimit
    | succ limit =>
      have hback := ih (Nat.lt_of_succ_lt_succ hlimit) (a :: seen)
      simp [iterate, h, hback]

theorem ReadsAll.many_eq {p : Reader (Option α)} {x : Context} (h : ReadsAll p x c as d)
    (hlimit : as.length < limit) : many limit p x c = some (as, d) := by
  simp [many, h.iterate_eq hlimit []]

/-- Reading items one after the other, with commas between them and none behind the last one, gives
the values. At the last place stands the closing punctuator. -/
inductive ReadsItems (closing : Mark) (item : Reader α) (x : Context) :
    Cursor → List α → Cursor → Prop where
  | done (hc : c.token.kind = .mark closing) : ReadsItems closing item x c [] c
  | last (hc : c.token.kind ≠ .mark closing) (h : item x c = some (a, d))
      (hd : d.token.kind = .mark closing) : ReadsItems closing item x c [a] d
  | more (hc : c.token.kind ≠ .mark closing) (h : item x c = some (a, d))
      (hd : d.token.kind = .mark .comma)
      (rest : ReadsItems closing item x (d.next x.dialect.script) as e) :
      ReadsItems closing item x c (a :: as) e

theorem ReadsItems.commaList_eq {closing : Mark} {item : Reader α} {x : Context}
    (h : ReadsItems closing item x c as d) (hclosing : closing ≠ .comma)
    (hlimit : as.length < limit) :
    ∃ trailing, commaList limit closing item x c = some ((as, trailing), d) := by
  -- what the list is read by notes for each item whether a comma follows
  suffices hnoted : ∃ noted, noted.map Prod.fst = as ∧ ReadsAll (do
      if (← token).isMark closing then return none
      else
        let a ← item
        if (← token).isMark closing then return some (a, false)
        else
          expect .comma
          return some (a, true)) x c noted d by
    obtain ⟨noted, rfl, hread⟩ := hnoted
    rw [List.length_map] at hlimit
    exact ⟨_, by simp only [commaList, bind_apply, hread.many_eq hlimit]; rfl⟩
  clear hlimit
  induction h with
  | done hc => exact ⟨[], rfl, .done (by simp [hc])⟩
  | last hc h hd =>
    refine ⟨[(_, false)], rfl, .more (by simp [hc, h, hd]; rfl) (.done ?_)⟩
    simp [hd]
  | more hc h hd _ ih =>
    obtain ⟨noted, rfl, hread⟩ := ih
    exact ⟨(_, true) :: noted, rfl,
      .more (by simp [hc, h, hd, hclosing.symm]) hread⟩

end Many

end Reader

/-- Where a module without types is read. -/
def inModule : Context := Dialect.context {}

@[simp] theorem script_inModule : inModule.dialect.script = false := rfl

@[simp] theorem typed_inModule : inModule.dialect.typed = false := rfl

theorem Reader.stringText_literal (onNewLine : Bool) (v : String) (t : List Char) :
    stringText inModule (Cursor.ofText false onNewLine ((literal v).toList ++ t)) =
      some (v, Cursor.ofText false false t) := by
  simp [Cursor.ofText_literal, stringText, Cursor.next]

end ModuleBundler.Ecma
