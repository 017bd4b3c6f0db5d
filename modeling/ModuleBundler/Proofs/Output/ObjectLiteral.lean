import ModuleBundler.Proofs.Ecma.Reading
import ModuleBundler.Proofs.Ecma.WholeNumber
import ModuleBundler.Proofs.Output.Delimited

namespace ModuleBundler.Ecma

/-- An object that a literal makes: its own properties, in the order in which they are defined, and
what the literal sets as its prototype, if it does. -/
structure ObjectValue where
  own : DependencyMap := {}
  prototype : Option Nat := none
deriving DecidableEq, Repr

/-- A property as it stands in an object literal. -/
structure PropertyText where
  key : String
  /-- Whether the key stands in brackets. -/
  computed : Bool
  value : Nat
deriving DecidableEq, Repr

namespace ObjectValue

/-- A key `__proto__` that is not computed sets the prototype, which a literal can do only once. Any
other key defines an own property, in place of an earlier one under the key. -/
def define (o : ObjectValue) (p : PropertyText) : Option ObjectValue :=
  if p.key = "__proto__" ∧ p.computed = false then
    if o.prototype.isSome then none else some { o with prototype := some p.value }
  else some { o with own := o.own.insert p.key p.value }

def ofProperties (ps : List PropertyText) : Option ObjectValue := ps.foldlM define {}

end ObjectValue

namespace Reader

/-- Reads a key; says whether it is computed. -/
def objectKey : Reader (String × Bool) := do
  if ← eat .openBracket then
    let key ← stringText
    expect .closeBracket
    return (key, true)
  else if (← token).isString then return (← stringText, false)
  else return (← anyWord, false)

def wholeNumber : Reader Nat := do
  let t ← token
  let behind ← rest
  let digits := t.start.take (t.start.length - behind.length)
  check (isWholeNumber digits)
  advance
  return Nat.ofDigitChars 10 digits 0

def property : Reader PropertyText := do
  let (key, computed) ← objectKey
  expect .colon
  return ⟨key, computed, ← wholeNumber⟩

/-- Reads an object literal up to its closing brace, which is left. -/
def properties (limit : Nat) : Reader (List PropertyText) := do
  expect .openBrace
  return (← commaList limit .closeBrace property).1

end Reader

/-- The object that the literal at the front of a text makes, and the text after the literal. -/
def objectValue? (cs : List Char) : Option (ObjectValue × List Char) :=
  match Reader.properties (cs.length + 1) inModule (Cursor.ofText false false cs) with
  | some (ps, cursor) => (ObjectValue.ofProperties ps).map fun o => (o, cursor.rest)
  | none => none

end ModuleBundler.Ecma

namespace ModuleBundler.Output

open Ecma

open Cursor Reader

section Parts

/-- The property that an entry of a map is printed as. -/
def propertyOf (e : String × Nat) : PropertyText := ⟨e.1, e.1 = "__proto__", e.2⟩

theorem objectKey_literal (s : String) (t : List Char) :
    objectKey inModule (ofText false false ((literal s).toList ++ t)) =
      some ((s, false), ofText false false t) := by
  rw [ofText_literal]
  simp [objectKey, Token.isString, stringText, Cursor.next]

theorem objectKey_mapKey (s : String) (t : List Char) :
    objectKey inModule (ofText false false ((mapKey s).toList ++ t)) =
      some ((s, decide (s = "__proto__")), ofText false false t) := by
  unfold mapKey
  split_ifs with hs
  · simp [hs, objectKey, ofText_lone '[' rfl, ofText_lone ']' rfl, Cursor.next,
      stringText_literal]
  · simp [hs, objectKey_literal]

theorem wholeNumber_toDigits (n : Nat) {t : List Char} (ht : EndsNumber t) :
    wholeNumber inModule (ofText false false (Nat.toDigits 10 n ++ t)) =
      some (n, ofText false false t) := by
  have hwhole := isWholeNumber_toDigits n
  rw [ofText_of_begins (begins_number hwhole t) (scan_number hwhole ht)]
  simp [wholeNumber, hwhole, Cursor.next, Nat.ofDigitChars_ten_toDigits]

theorem property_of_key {text : List Char} (n : Nat) {t : List Char} (ht : EndsNumber t)
    (hkey : ∀ t, objectKey inModule (ofText false false (text ++ t)) =
      some ((s, computed), ofText false false t)) :
    property inModule (ofText false false (text ++ ':' :: (Nat.toDigits 10 n ++ t))) =
      some (⟨s, computed, n⟩, ofText false false t) := by
  simp [property, hkey, ofText_lone ':' rfl, Cursor.next, wholeNumber_toDigits n ht]

theorem property_mapEntry (e : String × Nat) {t : List Char} (ht : EndsNumber t) :
    property inModule (ofText false false ((mapEntry e).toList ++ t)) =
      some (propertyOf e, ofText false false t) := by
  have hread := property_of_key e.2 ht (objectKey_mapKey e.1)
  simpa [mapEntry, propertyOf] using hread

theorem literal_not_closing (s : String) (t : List Char) :
    (ofText false false ((literal s).toList ++ t)).token.kind ≠ .mark .closeBrace := by
  rw [ofText_literal]
  simp

theorem mapEntry_not_closing (e : String × Nat) (t : List Char) :
    (ofText false false ((mapEntry e).toList ++ t)).token.kind ≠ .mark .closeBrace := by
  unfold mapEntry mapKey
  split_ifs
  · simp [ofText_lone '[' rfl]
  · simp only [String.toList_append, List.append_assoc]
    exact literal_not_closing e.1 _

theorem endsNumber_closeBrace (t : List Char) : EndsNumber ('\x7d' :: t) := by
  rintro c ⟨⟩
  decide

theorem endsNumber_mapRest (es : List (String × Nat)) (t : List Char) :
    EndsNumber (mapRest es ++ t) := by
  cases es with
  | nil => exact endsNumber_closeBrace t
  | cons e es =>
    rw [mapRest_cons]
    rintro c ⟨⟩
    decide

/-- The entries are read one after the other, up to the closing brace. -/
theorem readsItems_entries (e : String × Nat) (es : List (String × Nat)) (t : List Char) :
    ReadsItems .closeBrace property inModule
      (ofText false false ((mapEntry e).toList ++ (mapRest es ++ t)))
      ((e :: es).map propertyOf) (ofText false false ('\x7d' :: t)) := by
  induction es generalizing e with
  | nil =>
    refine .last (mapEntry_not_closing e _) (property_mapEntry e (endsNumber_mapRest [] t)) ?_
    rw [ofText_lone '\x7d' rfl]
  | cons f es ih =>
    have hcomma : ofText false false (mapRest (f :: es) ++ t) =
        ⟨⟨.mark .comma, false, mapRest (f :: es) ++ t⟩,
          (mapEntry f).toList ++ (mapRest es ++ t)⟩ := by
      rw [mapRest_cons, List.cons_append, List.cons_append, ofText_lone ',' rfl, List.append_assoc]
    refine .more (mapEntry_not_closing e _) (property_mapEntry e (endsNumber_mapRest (f :: es) t))
      ?_ ?_
    · rw [hcomma]
    · rw [hcomma]
      exact ih f

theorem length_mapRest (es : List (String × Nat)) : es.length < (mapRest es).length := by
  induction es with
  | nil => exact Nat.zero_lt_one
  | cons e es ih =>
    rw [mapRest_cons]
    simp only [List.length_cons, List.length_append]
    omega

/-- Behind its opening brace, a map is its entries and the closing brace, and not shorter than it
has entries. -/
theorem exists_body (d : DependencyMap) (t : List Char) :
    ∃ body, (mapLiteral d).toList = '\x7b' :: body ∧ d.entries.length ≤ body.length ∧
      ReadsItems .closeBrace property inModule (ofText false false (body ++ t))
        (d.entries.map propertyOf) (ofText false false ('\x7d' :: t)) := by
  rw [toList_mapLiteral]
  obtain ⟨entries⟩ := d
  cases entries with
  | nil => exact ⟨['\x7d'], rfl, Nat.zero_le 1, .done (by simp [ofText_lone '\x7d' rfl])⟩
  | cons e es =>
    refine ⟨(mapEntry e).toList ++ mapRest es, rfl, ?_, ?_⟩
    · have hrest := length_mapRest es
      simp only [List.length_cons, List.length_append]
      omega
    · rw [List.append_assoc]
      exact readsItems_entries e es t

end Parts

section Denotation

theorem objectValue?_eq {body t : List Char} {ps : List PropertyText}
    (hread : ReadsItems .closeBrace property inModule (ofText false false body) ps
      (ofText false false ('\x7d' :: t))) (hlength : ps.length ≤ body.length) :
    objectValue? ('\x7b' :: body) = (ObjectValue.ofProperties ps).map fun o => (o, t) := by
  obtain ⟨trailing, hlist⟩ := hread.commaList_eq (by decide)
    (Nat.lt_succ_of_le (Nat.le_succ_of_le hlength))
  have hproperties : properties (body.length + 1 + 1) inModule
      (ofText false false ('\x7b' :: body)) = some (ps, ofText false false ('\x7d' :: t)) := by
    simp [properties, ofText_lone '\x7b' rfl, Cursor.next, hlist]
  simp only [objectValue?, List.length_cons, hproperties, ofText_lone '\x7d' rfl]

/-- Without brackets around it, the one key would set the prototype and define nothing. -/
theorem objectValue?_plain_proto (n : Nat) (t : List Char) :
    objectValue? ('\x7b' :: ((literal "__proto__").toList ++
        ':' :: (Nat.toDigits 10 n ++ '\x7d' :: t))) = some (⟨{}, some n⟩, t) := by
  have hproperty := property_of_key n (endsNumber_closeBrace t) (objectKey_literal "__proto__")
  have hread : ReadsItems .closeBrace property inModule (ofText false false
      ((literal "__proto__").toList ++ ':' :: (Nat.toDigits 10 n ++ '\x7d' :: t)))
      [⟨"__proto__", false, n⟩] (ofText false false ('\x7d' :: t)) :=
    .last (literal_not_closing _ _) hproperty (by rw [ofText_lone '\x7d' rfl])
  have hlength : 1 ≤ ((literal "__proto__").toList ++
      ':' :: (Nat.toDigits 10 n ++ '\x7d' :: t)).length := by
    rw [List.length_append, List.length_cons]
    omega
  rw [objectValue?_eq hread hlength]
  rfl

/-- Entries under new keys are all defined, one behind the other. -/
theorem foldlM_define (own es : List (String × Nat))
    (hnodup : ((own ++ es).map Prod.fst).Nodup) :
    (es.map propertyOf).foldlM ObjectValue.define ⟨⟨own⟩, none⟩ = some ⟨⟨own ++ es⟩, none⟩ := by
  induction es generalizing own with
  | nil => simp
  | cons e es ih =>
    have hnew : (⟨own⟩ : DependencyMap).contains e.1 = false := by
      rw [List.map_append, List.nodup_append] at hnodup
      rw [← Bool.not_eq_true, DependencyMap.contains_iff]
      exact fun h => hnodup.2.2 e.1 h e.1 (by simp) rfl
    have hdefine : ObjectValue.define ⟨⟨own⟩, none⟩ (propertyOf e) =
        some ⟨⟨own ++ [e]⟩, none⟩ := by
      simp [ObjectValue.define, propertyOf, DependencyMap.insert, hnew]
    rw [List.map_cons, List.foldlM_cons, hdefine]
    have hback := ih (own ++ [e]) (by simpa using hnodup)
    rw [List.append_assoc] at hback
    exact hback

end Denotation

/-- The text of a dependency map makes an object with the entries as its own properties, and the
prototype that every object has, whatever the keys are and whatever text follows. The literals in
it are read as what they were printed from, up to their last quote, and stay on their line. -/
theorem mapLiteral_denotes :
    (∀ d : DependencyMap, d.keys.Nodup → ∀ t : List Char,
      objectValue? ((mapLiteral d).toList ++ t) = some (⟨d, none⟩, t)) ∧
    ∀ v : String,
      (∀ t : List Char, scan ((literal v).toList ++ t) = (.string v, t)) ∧
      ∀ c ∈ (literal v).toList, 0x20 ≤ c.toNat ∧ c ≠ '\u2028' ∧ c ≠ '\u2029' := by
  refine ⟨?_, fun v => ⟨scan_literal v, isPrintable_literal v⟩⟩
  intro d hd t
  have hvalue : ObjectValue.ofProperties (d.entries.map propertyOf) = some ⟨d, none⟩ :=
    foldlM_define [] d.entries hd
  obtain ⟨body, hbody, hlength, hread⟩ := exists_body d t
  have hbound : (d.entries.map propertyOf).length ≤ (body ++ t).length := by
    rw [List.length_map, List.length_append]
    omega
  rw [hbody, List.cons_append, objectValue?_eq hread hbound, hvalue]
  rfl

/-- The key that objects treat in their own way, one with a quote and a backslash before a line
separator, and the empty one. -/
def peculiar : DependencyMap := ⟨[("__proto__", 10), ("\x22\\\u2028", 0), ("", 1)]⟩

theorem mapLiteral_denotes_peculiar :
    peculiar.keys.Nodup ∧
    mapLiteral peculiar = "\x7b[\x22__proto__\x22]:10,\x22\\\x22\\\\\\u2028\x22:0,\x22\x22:1\x7d" ∧
    objectValue? ((mapLiteral peculiar).toList ++ "],".toList) =
      some (⟨peculiar, none⟩, "],".toList) := by
  have hkeys : peculiar.keys.Nodup := by decide
  exact ⟨hkeys, by decide, mapLiteral_denotes.1 peculiar hkeys "],".toList⟩

end ModuleBundler.Output
