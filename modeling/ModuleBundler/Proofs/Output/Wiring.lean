import ModuleBundler.Proofs.Graph
import ModuleBundler.Proofs.Output.Delimited

namespace ModuleBundler

namespace Output

open Text (run_append_inj)

/-- The text has none of the characters that end a line of a script. -/
def OneLine (s : String) : Prop :=
  ∀ c ∈ s.toList, c ≠ '\r' ∧ c ≠ '\n' ∧ c ≠ '\u2028' ∧ c ≠ '\u2029'

theorem oneLine_commentText (s : String) : OneLine (commentText s) := by
  have letters (cs : List Char) (h : cs.all fun c =>
      c != '\r' && c != '\n' && c != '\u2028' && c != '\u2029') :
      ∀ c ∈ cs, c ≠ '\r' ∧ c ≠ '\n' ∧ c ≠ '\u2028' ∧ c ≠ '\u2029' := by
    simpa [and_assoc] using h
  have spelled (d : Char) : ∀ c ∈ commentChar d,
      c ≠ '\r' ∧ c ≠ '\n' ∧ c ≠ '\u2028' ∧ c ≠ '\u2029' := by
    unfold commentChar
    split_ifs with hr hn hl hp
    · exact letters _ rfl
    · exact letters _ rfl
    · exact letters _ rfl
    · exact letters _ rfl
    · intro c hc
      rw [List.mem_singleton.mp hc]
      exact ⟨hr, hn, hl, hp⟩
  intro c hc
  rw [commentText, String.toList_ofList, List.mem_flatMap] at hc
  obtain ⟨d, -, hd⟩ := hc
  exact spelled d c hd

theorem factoryBody_eq (source : String) : factoryBody source =
    (if ['#', '!'].isPrefixOf source.toList then "//" else "") ++ source := by
  unfold factoryBody
  split_ifs <;> simp

theorem row_append_inj {cwd cwd' : Path} {a b : Asset} {t u : List Char}
    (hs : a.source = b.source) (h : (row cwd a).toList ++ t = (row cwd' b).toList ++ u) :
    a.index = b.index ∧ a.dependencies = b.dependencies ∧ t = u := by
  have line (s : String) : ∀ c ∈ (commentText s).toList, (c != '\n') = true := by
    intro c hc
    simpa using (oneLine_commentText s c hc).2.1
  have feed (rest : List Char) : ∀ c ∈ ("\n".toList ++ rest).head?, (c != '\n') = false := by
    rintro c ⟨⟩
    rfl
  delta row at h
  simp only [String.toList_append, List.append_assoc] at h
  -- the comment ends at the first line feed, the number at the colon behind it
  obtain ⟨-, h⟩ := run_append_inj (line _) (line _) (feed _) (feed _)
    (List.append_cancel_left h)
  obtain ⟨hindex, h⟩ := number_append_inj (noDigit_append _ rfl) (noDigit_append _ rfl)
    (List.append_cancel_left h)
  rw [hs] at h
  simp only [List.append_cancel_left_eq] at h
  obtain ⟨hdependencies, h⟩ := mapLiteral_append_inj h
  exact ⟨hindex, hdependencies, List.append_cancel_left h⟩

/-- The rows of a table, each behind a line feed. -/
def rowsText (cwd : Path) (as : List Asset) : List Char :=
  as.flatMap fun a => '\n' :: (row cwd a).toList

theorem rowsText_append_inj {cwd cwd' : Path} {as bs : List Asset} {t u : List Char}
    (hs : as.map (·.source) = bs.map (·.source))
    (h : rowsText cwd as ++ t = rowsText cwd' bs ++ u) :
    as.map (·.dependencies) = bs.map (·.dependencies) ∧ t = u := by
  induction as generalizing bs with
  | nil =>
    rw [List.map_nil, eq_comm, List.map_eq_nil_iff] at hs
    subst hs
    exact ⟨rfl, h⟩
  | cons a as ih =>
    cases bs with
    | nil => simp at hs
    | cons b bs =>
      simp only [List.map_cons, List.cons.injEq] at hs
      simp only [rowsText, List.flatMap_cons, List.cons_append, List.append_assoc,
        List.cons.injEq, true_and] at h
      obtain ⟨-, hdependencies, h⟩ := row_append_inj hs.1 h
      obtain ⟨hrest, htail⟩ := ih hs.2 h
      exact ⟨by simp [hdependencies, hrest], htail⟩

theorem toList_joinLines (part : String) (parts : List String) :
    (joinLines (part :: parts)).toList =
      part.toList ++ parts.flatMap fun p => '\n' :: p.toList := by
  have hfeed : "\n".toList = ['\n'] := rfl
  rw [joinLines, String.toList_intercalate, hfeed, List.map_cons, Text.intercalate_cons,
    List.flatMap_map]

theorem joinLines_cons_cons (first second : String) (parts : List String) :
    joinLines (first :: second :: parts) = joinLines (joinLines [first, second] :: parts) := by
  rw [← String.toList_inj]
  simp [toList_joinLines]

end Output

namespace AssetGraph

open Output

/-- What stands before the table of modules. -/
def head (name : Option String) (entry : Nat) : String :=
  joinLines [match name with
    | some name => "var " ++ name ++ " = " ++ loader
    | none => loader,
    "  return load(" ++ toString entry ++ ");\n\x7d)(\x7b"]

theorem bundleText_eq (g : AssetGraph) (cwd : Path) (name : Option String) :
    g.bundleText cwd name =
      joinLines (head name g.entry :: g.assets.toList.map (row cwd) ++ ["\x7d);\n"]) :=
  joinLines_cons_cons _ _ _

theorem toList_bundleText (g : AssetGraph) (cwd : Path) (name : Option String) :
    (g.bundleText cwd name).toList = (head name g.entry).toList ++
      (rowsText cwd g.assets.toList ++ '\n' :: "\x7d);\n".toList) := by
  rw [bundleText_eq, List.cons_append, toList_joinLines]
  simp [rowsText, List.flatMap_map]

theorem head_append_inj {name : Option String} {m n : Nat} {t u : List Char}
    (h : (head name m).toList ++ t = (head name n).toList ++ u) : m = n ∧ t = u := by
  simp only [head, toList_joinLines, List.flatMap_cons, List.flatMap_nil, List.append_nil,
    List.cons_append, String.toList_append, List.append_assoc, List.append_cancel_left_eq,
    List.cons.injEq, true_and] at h
  obtain ⟨hnumber, h⟩ := number_append_inj (noDigit_append _ rfl) (noDigit_append _ rfl) h
  exact ⟨hnumber, List.append_cancel_left h⟩

/-- The text of a bundle with known sources tells its entry and where every specifier leads. A row
of it is a comment on one line, the number of the asset, the function with its source as it is, a
first line that names an interpreter apart, and its map. -/
theorem wiring_determined :
    (∀ (g h : AssetGraph) (cwd cwd' : Path) (name : Option String), g.validate = .ok () →
      h.validate = .ok () →
      g.assets.toList.map (·.source) = h.assets.toList.map (·.source) →
      g.generate cwd name = h.generate cwd' name →
        g.entry = h.entry ∧
          g.assets.toList.map (·.dependencies) = h.assets.toList.map (·.dependencies)) ∧
    ∀ (g : AssetGraph) (cwd : Path) (name : Option String), g.validate = .ok () →
      ∃ rows : List String, rows.length = g.assets.size ∧
        g.generate cwd name = .ok (joinLines (head name g.entry :: rows ++ ["\x7d);\n"])) ∧
        ∀ (i : Nat) (a : Asset), g.assets[i]? = some a → ∃ comment, OneLine comment ∧
          rows[i]? = some ("// " ++ comment ++ "\n" ++ toString i ++ ": [" ++ factoryOpening ++
            "\n" ++ ((if ['#', '!'].isPrefixOf a.source.toList then "//" else "") ++ a.source) ++
            "\n\x7d, " ++ mapLiteral a.dependencies ++ "],") := by
  constructor
  · intro g h cwd cwd' name hg hh hs htext
    rw [((validate_eq_ok_iff g).mp hg).generate_eq, ((validate_eq_ok_iff h).mp hh).generate_eq,
      Except.ok.injEq, ← String.toList_inj, toList_bundleText, toList_bundleText] at htext
    obtain ⟨hentry, hrows⟩ := head_append_inj htext
    exact ⟨hentry, (rowsText_append_inj hs hrows).1⟩
  · intro g cwd name hg
    have hclosed := (validate_eq_ok_iff g).mp hg
    refine ⟨g.assets.toList.map (row cwd), by simp, ?_, ?_⟩
    · rw [hclosed.generate_eq, bundleText_eq]
    · intro i a ha
      refine ⟨commentText (a.path.stable cwd), oneLine_commentText _, ?_⟩
      rw [List.getElem?_map, Array.getElem?_toList, ha, Option.map_some]
      delta row
      rw [hclosed.numbered i a ha, factoryBody_eq]

/-- One script that requires itself under a name that objects treat in their own way. -/
def soleScript (path : Path) : AssetGraph :=
  ⟨#[⟨0, path, "#!node\n\x7d);", ["__proto__"], ⟨[("__proto__", 0)]⟩⟩], 0⟩

/-- A line feed in a path and the letters that spell it give the same comment and the same text. -/
theorem wiring_determined_spelled :
    (soleScript ⟨"/p/a\nb"⟩).validate = .ok () ∧ (soleScript ⟨"/p/a\\nb"⟩).validate = .ok () ∧
    (soleScript ⟨"/p/a\nb"⟩).generate ⟨"/p"⟩ none =
      (soleScript ⟨"/p/a\\nb"⟩).generate ⟨"/p"⟩ none ∧
    (soleScript ⟨"/p/a\nb"⟩).entry = (soleScript ⟨"/p/a\\nb"⟩).entry ∧
    ∃ rows : List String, rows.length = 1 ∧
      (soleScript ⟨"/p/a\nb"⟩).generate ⟨"/p"⟩ none =
        .ok (joinLines (head none 0 :: rows ++ ["\x7d);\n"])) := by
  have closed (p : Path) : (soleScript p).Closed := by
    rw [← violation?_eq_none_iff]
    rfl
  have ok (p : Path) : (soleScript p).validate = .ok () := (validate_eq_ok_iff _).mpr (closed p)
  have hcomment : commentText (Path.stable ⟨"/p/a\nb"⟩ ⟨"/p"⟩) =
      commentText (Path.stable ⟨"/p/a\\nb"⟩ ⟨"/p"⟩) := by decide +kernel
  have htext : (soleScript ⟨"/p/a\nb"⟩).generate ⟨"/p"⟩ none =
      (soleScript ⟨"/p/a\\nb"⟩).generate ⟨"/p"⟩ none := by
    rw [(closed _).generate_eq, (closed _).generate_eq, bundleText_eq, bundleText_eq]
    simp only [soleScript, List.map_cons, List.map_nil]
    delta row
    rw [hcomment]
  obtain ⟨rows, hlength, hrows, -⟩ :=
    wiring_determined.2 (soleScript ⟨"/p/a\nb"⟩) ⟨"/p"⟩ none (ok _)
  have hsources : (soleScript ⟨"/p/a\nb"⟩).assets.toList.map (·.source) =
      (soleScript ⟨"/p/a\\nb"⟩).assets.toList.map (·.source) := rfl
  obtain ⟨hentry, -⟩ := wiring_determined.1 _ _ ⟨"/p"⟩ ⟨"/p"⟩ none (ok _) (ok _) hsources htext
  exact ⟨ok _, ok _, htext, hentry, rows, hlength, hrows⟩

end AssetGraph

end ModuleBundler
