namespace ModuleBundler.Text

/-- The text with every occurrence of a nonempty pattern replaced; the first `skip` characters
belong to an occurrence already replaced. -/
def replaceFrom (pattern replacement : List Char) : Nat → List Char → List Char
  | _, [] => []
  | skip + 1, _ :: cs => replaceFrom pattern replacement skip cs
  | 0, c :: cs =>
    if pattern.isPrefixOf (c :: cs) then
      replacement ++ replaceFrom pattern replacement (pattern.length - 1) cs
    else c :: replaceFrom pattern replacement 0 cs

/-- The text with every occurrence of a nonempty pattern replaced. -/
def replaceChars (pattern replacement cs : List Char) : List Char :=
  replaceFrom pattern replacement 0 cs

/-- The text with every occurrence of a nonempty pattern replaced. -/
def replace (pattern replacement s : String) : String :=
  String.ofList (replaceChars pattern.toList replacement.toList s.toList)

theorem replaceFrom_drop (pattern replacement : List Char) (skip : Nat) (cs : List Char) :
    replaceFrom pattern replacement skip cs =
      replaceFrom pattern replacement 0 (cs.drop skip) := by
  induction cs generalizing skip with
  | nil => simp [replaceFrom]
  | cons c cs ih =>
    cases skip with
    | zero => rfl
    | succ skip => exact ih skip

theorem replaceChars_append {pattern : List Char} (replacement rest : List Char)
    (h : pattern ≠ []) :
    replaceChars pattern replacement (pattern ++ rest) =
      replacement ++ replaceChars pattern replacement rest := by
  obtain ⟨p, ps, rfl⟩ := List.exists_cons_of_ne_nil h
  have hp : (p :: ps).isPrefixOf (p :: (ps ++ rest)) = true := by
    rw [List.isPrefixOf_iff_prefix]
    exact ⟨rest, rfl⟩
  simp only [replaceChars, List.cons_append, replaceFrom, hp, if_true, List.length_cons,
    Nat.add_sub_cancel]
  rw [replaceFrom_drop, List.drop_left]

end ModuleBundler.Text
