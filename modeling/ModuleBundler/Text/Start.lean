namespace ModuleBundler.Text

/-- What follows the given beginning, if the text starts with it. -/
def stripStart : List Char → List Char → Option (List Char)
  | [], cs => some cs
  | _ :: _, [] => none
  | p :: ps, c :: cs => if p = c then stripStart ps cs else none

theorem stripStart_eq_some_iff {ps cs rest : List Char} :
    stripStart ps cs = some rest ↔ cs = ps ++ rest := by
  induction ps generalizing cs with
  | nil => simp [stripStart]
  | cons p ps ih =>
    cases cs with
    | nil => simp [stripStart]
    | cons c cs =>
      by_cases h : p = c
      · simp [stripStart, h, ih]
      · simp [stripStart, h, Ne.symm h]

theorem stripStart_append (ps rest : List Char) : stripStart ps (ps ++ rest) = some rest :=
  stripStart_eq_some_iff.mpr rfl

end ModuleBundler.Text
