import ModuleBundler.Extract.Ecma
import ModuleBundler.Proofs.Ecma.Requests
import ModuleBundler.Proofs.Output.Wiring

namespace ModuleBundler.Extract

open Ecma Ecma.Grammar Ecma.Cursor

/-- A way to request a module by one statement. -/
inductive Form where
  | importing
  | reexporting
  | requiring
deriving DecidableEq, Repr

namespace Form

/-- The statement that requests the module under the specifier. -/
def print (form : Form) (specifier : String) : String :=
  match form with
  | .importing => "import " ++ literal specifier ++ ";"
  | .reexporting => "export * from " ++ literal specifier ++ ";"
  | .requiring => "require(" ++ literal specifier ++ ");"

@[simp]
theorem print_importing (s : String) : print .importing s = "import " ++ literal s ++ ";" := rfl

@[simp]
theorem print_reexporting (s : String) :
    print .reexporting s = "export * from " ++ literal s ++ ";" := rfl

@[simp]
theorem print_requiring (s : String) : print .requiring s = "require(" ++ literal s ++ ");" := rfl

/-- What the grammar makes of the statement. -/
def node (form : Form) (specifier : String) : Node :=
  match form with
  | .importing => .request specifier
  | .reexporting => .group [.request specifier, .leaf]
  | .requiring => requireCall specifier

/-- The tokens of the statement. -/
def tokens (form : Form) (specifier : String) : List Kind :=
  match form with
  | .importing => [.word ⟨"import", false⟩, .string specifier, .mark .semicolon]
  | .reexporting =>
    [.word ⟨"export", false⟩, .mark .star, .word ⟨"from", false⟩, .string specifier,
      .mark .semicolon]
  | .requiring =>
    [.word ⟨"require", false⟩, .mark .openParen, .string specifier, .mark .closeParen] ++
      [.mark .semicolon]

end Form

section Tokens

theorem spans_star {cs : List Char} (hcs : Spans (ofText false false (' ' :: cs)) ks d) :
    Spans (ofText false false ('*' :: ' ' :: cs)) (.mark .star :: ks) d :=
  spans_cons (begins_cons (by decide) _) (scan_mark (by decide) rfl) hcs false

theorem spans_print (form : Form) (s : String) (onNewLine : Bool) (t : List Char) :
    Spans (ofText false onNewLine ((form.print s).toList ++ t)) (form.tokens s)
      (ofText false false t) := by
  have hspace (cs : List Char) : EndsWord (' ' :: cs) := endsWord_cons (by decide) cs
  have hlast : Spans (ofText false false (';' :: t)) [.mark .semicolon] (ofText false false t) :=
    spans_lone ';' rfl false rfl
  have hmodule : Spans (ofText false false (' ' :: ((literal s).toList ++ ';' :: t)))
      [.string s, .mark .semicolon] (ofText false false t) :=
    spans_space (begins_literal s _) (spans_literal s false hlast)
  cases form with
  | importing =>
    have htext := spans_word "import" (by decide) (by decide) onNewLine (hspace _) hmodule
    simpa [Form.tokens] using htext
  | reexporting =>
    have hfrom := spans_word "from" (by decide) (by decide) false (hspace _) hmodule
    have hstar := spans_star (spans_space (begins_append (by decide) (by decide) _) hfrom)
    have htext := spans_word "export" (by decide) (by decide) onNewLine (hspace _)
      (spans_space (begins_cons (by decide) _) hstar)
    simpa [Form.tokens] using htext
  | requiring =>
    have hargument := spans_literal s false (spans_lone ')' rfl false hlast)
    have htext := spans_word "require" (by decide) (by decide) onNewLine
      (endsWord_cons (by decide) _) (spans_lone '(' rfl false hargument)
    simpa [Form.tokens] using htext

end Tokens

section Source

theorem statement_print (depth : Nat) (form : Form) (s : String) (onNewLine : Bool)
    (t : List Char) :
    statement (nested (depth + 7)) false inModule
        (ofText false onNewLine ((form.print s).toList ++ t)) =
      some (form.node s, ofText false false t) := by
  have hspans := spans_print form s onNewLine t
  cases form with
  | importing => exact statement_import _ hspans
  | reexporting => exact statement_export _ hspans
  | requiring => exact statement_require depth hspans

/-- Reads the next statement of a text, unless the text ends. -/
def statement? (g : Grammar) : Reader (Option Node) := do
  if (← Reader.token).kind = .ending then return none
  else return some (← g.read (.statement false))

theorem statement?_print (depth : Nat) (form : Form) (s : String) (onNewLine : Bool)
    (t : List Char) :
    statement? (nested (depth + 8)) inModule
        (ofText false onNewLine ((form.print s).toList ++ t)) =
      some (some (form.node s), ofText false false t) := by
  have hkind : (ofText false onNewLine ((form.print s).toList ++ t)).token.kind ≠ .ending := by
    have hspans := spans_print form s onNewLine t
    cases form
    all_goals
      rw [hspans.1]
      simp
  simp [statement?, hkind, read_nested, readPart, statement_print]

theorem statement?_ending (g : Grammar) (onNewLine : Bool) :
    statement? g inModule (ofText false onNewLine []) =
      some (none, ofText false onNewLine []) := by
  have hend : ofText false onNewLine [] = ⟨⟨.ending, onNewLine, []⟩, []⟩ :=
    ofText_of_begins (by decide) rfl onNewLine
  simp [statement?, hend]

theorem begins_print (form : Form) (s : String) (t : List Char) :
    Begins ((form.print s).toList ++ t) := by
  cases form
  all_goals
    simp only [Form.print_importing, Form.print_reexporting, Form.print_requiring,
      String.toList_append, List.append_assoc]
    exact begins_append (by decide) (by decide) _

/-- Statements, each on a line of its own behind what is printed before. -/
def linesOf (es : List (Form × String)) : List Char :=
  es.flatMap fun e => '\n' :: (e.1.print e.2).toList

/-- The line end of the last line may be there or not. -/
theorem readsAll_lines (depth : Nat) {ending : List Char} (hending : ending = [] ∨ ending = ['\n'])
    (e : Form × String) (es : List (Form × String)) :
    ∃ last, Reader.ReadsAll (statement? (nested (depth + 8))) inModule
      (ofText false true ((e.1.print e.2).toList ++ (linesOf es ++ ending)))
      ((e :: es).map fun e => e.1.node e.2) last := by
  induction es generalizing e with
  | nil =>
    have hbehind : ∃ nl, ofText false false ending = ofText false nl [] := by
      rcases hending with rfl | rfl
      · exact ⟨false, rfl⟩
      · exact ⟨true, ofText_lineFeed (by decide) false⟩
    obtain ⟨nl, hbehind⟩ := hbehind
    have hread := statement?_print depth e.1 e.2 true (linesOf [] ++ ending)
    refine ⟨ofText false nl [], .more hread ?_⟩
    rw [show linesOf [] ++ ending = ending from rfl, hbehind]
    exact .done (statement?_ending _ nl)
  | cons f es ih =>
    obtain ⟨last, hlines⟩ := ih f
    have hread := statement?_print depth e.1 e.2 true (linesOf (f :: es) ++ ending)
    have hfeed : ofText false false (linesOf (f :: es) ++ ending) =
        ofText false true ((f.1.print f.2).toList ++ (linesOf es ++ ending)) := by
      rw [linesOf, List.flatMap_cons, List.append_assoc, List.cons_append,
        ofText_lineFeed (begins_print f.1 f.2 _)]
      rfl
    rw [← hfeed] at hlines
    exact ⟨last, .more hread hlines⟩

theorem length_le_linesOf (es : List (Form × String)) : es.length ≤ (linesOf es).length := by
  induction es with
  | nil => exact Nat.le_refl 0
  | cons e es ih =>
    simp only [linesOf, List.flatMap_cons, List.length_append, List.length_cons] at ih ⊢
    omega

/-- The text of printed requests, one on a line. -/
def printed (es : List (Form × String)) : String :=
  Output.joinLines (es.map fun e => e.1.print e.2)

theorem toList_printed_cons (e : Form × String) (es : List (Form × String)) :
    (printed (e :: es)).toList = (e.1.print e.2).toList ++ linesOf es := by
  rw [printed, List.map_cons, Output.toList_joinLines, List.flatMap_map, linesOf]

theorem length_le_printed (es : List (Form × String)) :
    es.length ≤ (printed es).toList.length + 1 := by
  cases es with
  | nil => exact Nat.zero_le _
  | cons e es =>
    have hlines := length_le_linesOf es
    rw [toList_printed_cons, List.length_append, List.length_cons]
    omega

theorem skipFirstLine_print (form : Form) (s : String) (t : List Char) :
    skipFirstLine ((form.print s).toList ++ t) = (form.print s).toList ++ t := by
  cases form
  all_goals simp [skipFirstLine]

/-- The statements of printed requests are read, and nothing else. -/
theorem source_printed (es : List (Form × String)) {ending : List Char}
    (hending : ending = [] ∨ ending = ['\n']) (limit : Nat)
    (hlimit : ((printed es).toList ++ ending).length + 16 ≤ limit) :
    ∃ last, source (nested limit) inModule (first false ((printed es).toList ++ ending)) =
      some (.group (es.map fun e => e.1.node e.2), last) := by
  obtain ⟨depth, rfl⟩ : ∃ depth, limit = depth + 8 := ⟨limit - 8, by omega⟩
  suffices hread : ∃ last, Reader.ReadsAll (statement? (nested (depth + 8))) inModule
      (first false ((printed es).toList ++ ending)) (es.map fun e => e.1.node e.2) last by
    obtain ⟨last, hread⟩ := hread
    have hlength : (es.map fun e => e.1.node e.2).length < depth + 8 := by
      have hprinted := length_le_printed es
      rw [List.length_map]
      rw [List.length_append] at hlimit
      omega
    exact ⟨last, Reader.bind_of (hread.many_eq hlength)⟩
  cases es with
  | nil =>
    have hfirst : first false ((printed []).toList ++ ending) = ofText false true [] := by
      rcases hending with rfl | rfl
      · rfl
      · exact ofText_lineFeed (by decide) true
    rw [hfirst]
    exact ⟨_, .done (statement?_ending _ true)⟩
  | cons e es =>
    rw [toList_printed_cons, List.append_assoc, first, skipFirstLine_print]
    exact readsAll_lines depth hending e es

end Source

section Tree

theorem specifiersBefore_node (form : Form) (s : String) (later : List String) :
    (form.node s).specifiersBefore later = s :: later := by
  cases form
  all_goals rfl

theorem exportsBefore_node (form : Form) (s : String) (later : List String) :
    (form.node s).exportsBefore later = later := by
  cases form
  all_goals rfl

theorem isComplete_node (form : Form) (s : String) : (form.node s).isComplete = true := by
  cases form
  all_goals rfl

theorem specifiers_nodes (es : List (Form × String)) :
    (Node.group (es.map fun e => e.1.node e.2)).specifiers = es.map Prod.snd := by
  rw [Node.specifiers, Node.group, Node.specifiersBefore]
  induction es with
  | nil => rfl
  | cons e es ih =>
    rw [List.map_cons, Node.listSpecifiersBefore, ih, specifiersBefore_node, List.map_cons]

theorem exports_nodes (es : List (Form × String)) :
    (Node.group (es.map fun e => e.1.node e.2)).exportsBefore [] = [] := by
  rw [Node.group, Node.exportsBefore]
  induction es with
  | nil => rfl
  | cons e es ih => rw [List.map_cons, Node.listExportsBefore, ih, exportsBefore_node]

theorem isComplete_nodes (es : List (Form × String)) :
    (Node.group (es.map fun e => e.1.node e.2)).isComplete = true := by
  have hlist : Node.listIsComplete (es.map fun e => e.1.node e.2) = true := by
    induction es with
    | nil => rfl
    | cons e es ih => rw [List.map_cons, Node.listIsComplete, ih, isComplete_node, Bool.true_and]
  rw [Node.group, Node.isComplete, hlist]
  rfl

theorem tree?_printed (es : List (Form × String)) {ending : List Char}
    (hending : ending = [] ∨ ending = ['\n']) :
    tree? {} ((printed es).toList ++ ending) =
      some (.group (es.map fun e => e.1.node e.2)) := by
  obtain ⟨last, hsource⟩ := source_printed es hending
    (64 * (((printed es).toList ++ ending).length + 16)) (by omega)
  have hgrammar : (Grammar.ofLength ((printed es).toList ++ ending).length).source
      (Dialect.context {}) (first false ((printed es).toList ++ ending)) =
        some (.group (es.map fun e => e.1.node e.2), last) := hsource
  simp only [tree?, hgrammar, isComplete_nodes, exports_nodes]
  simp

end Tree

theorem ofPath_of_extension {path : Path}
    (h : path.extension? = some "js".toList ∨ path.extension? = some "mjs".toList) :
    Dialect.ofPath path = {} := by
  rw [Path.extension?] at h
  rw [Dialect.ofPath]
  cases hname : path.fileName? with
  | none => rfl
  | some name =>
    rw [hname, Option.bind_some] at h
    rcases h with h | h
    · simp [Dialect.ofName, h]
    · simp [Dialect.ofName, h]

theorem ecma_of_moduleTree? {source : String} {path : Path} {node : Node}
    (h : moduleTree? (Dialect.ofPath path) source.toList = some node) :
    ecma source path = .ok node.specifiers := by
  unfold ecma
  rw [h]

/-- From printed requests, one on a line, the specifiers are extracted as they were, in order and
each as often as it was printed. The last line may end like the others. -/
theorem ecma_printed (es : List (Form × String)) (path : Path)
    (hpath : path.extension? = some "js".toList ∨ path.extension? = some "mjs".toList) :
    ecma (printed es) path = .ok (es.map Prod.snd) ∧
      ecma (printed es ++ "\n") path = .ok (es.map Prod.snd) := by
  have hextract {source : String} {ending : List Char} (hending : ending = [] ∨ ending = ['\n'])
      (hsource : source.toList = (printed es).toList ++ ending) :
      ecma source path = .ok (es.map Prod.snd) := by
    have htree : moduleTree? (Dialect.ofPath path) source.toList =
        some (.group (es.map fun e => e.1.node e.2)) := by
      rw [ofPath_of_extension hpath, hsource, moduleTree?, tree?_printed es hending, Option.some_or]
    rw [ecma_of_moduleTree? htree, specifiers_nodes]
  exact ⟨hextract (.inl rfl) (by simp), hextract (.inr rfl) (by simp)⟩

/-- Requests under specifiers that look like code, one of them twice. -/
def deceptive : List (Form × String) :=
  [(.requiring, "\x22);\nrequire(\x22x"), (.importing, "*/ \\\u2028"), (.reexporting, ""),
    (.importing, "*/ \\\u2028")]

theorem ecma_printed_deceptive :
    Path.extension? ⟨"/src/a.mjs"⟩ = some "mjs".toList ∧
    ecma (printed deceptive) ⟨"/src/a.mjs"⟩ =
      .ok ["\x22);\nrequire(\x22x", "*/ \\\u2028", "", "*/ \\\u2028"] ∧
    ecma (printed deceptive ++ "\n") ⟨"/src/a.mjs"⟩ =
      .ok ["\x22);\nrequire(\x22x", "*/ \\\u2028", "", "*/ \\\u2028"] := by
  have hpath : Path.extension? ⟨"/src/a.mjs"⟩ = some "mjs".toList := by decide
  exact ⟨hpath, ecma_printed deceptive ⟨"/src/a.mjs"⟩ (.inr hpath)⟩

end ModuleBundler.Extract
