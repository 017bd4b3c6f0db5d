namespace ModuleBundler.Text

/-- The pieces between separators; there is always at least one. -/
def split (sep : Char) : List Char → List (List Char)
  | [] => [[]]
  | c :: cs =>
    if c = sep then [] :: split sep cs
    else match split sep cs with
      | [] => [[c]]
      | w :: ws => (c :: w) :: ws

def join (sep : Char) : List (List Char) → List Char
  | [] => []
  | [w] => w
  | w :: v :: ws => w ++ sep :: join sep (v :: ws)

theorem split_ne_nil (sep : Char) (cs : List Char) : split sep cs ≠ [] := by
  cases cs with
  | nil => simp [split]
  | cons c cs =>
    unfold split
    split
    · simp
    · split <;> simp

theorem join_cons {sep : Char} {w : List Char} {ws : List (List Char)} (h : ws ≠ []) :
    join sep (w :: ws) = w ++ sep :: join sep ws := by
  cases ws with
  | nil => exact absurd rfl h
  | cons v ws => rfl

theorem join_split (sep : Char) (cs : List Char) : join sep (split sep cs) = cs := by
  induction cs with
  | nil => rfl
  | cons c cs ih =>
    unfold split
    split
    · rename_i h
      rw [join_cons (split_ne_nil sep cs), ih, h]
      rfl
    · split
      · rename_i h
        exact absurd h (split_ne_nil sep cs)
      · rename_i w ws h
        rw [h] at ih
        cases ws with
        | nil => simpa [join] using ih
        | cons v ws => simpa [join] using ih

theorem not_mem_of_mem_split {sep : Char} {cs w : List Char} (h : w ∈ split sep cs) :
    sep ∉ w := by
  induction cs generalizing w with
  | nil =>
    simp [split] at h
    simp [h]
  | cons c cs ih =>
    unfold split at h
    split at h
    · rcases List.mem_cons.mp h with rfl | h
      · simp
      · exact ih h
    · rename_i hc
      split at h
      · rename_i h'
        exact absurd h' (split_ne_nil sep cs)
      · rename_i v vs hv
        rcases List.mem_cons.mp h with rfl | h
        · have := ih (w := v) (by simp [hv])
          simp [this, Ne.symm hc]
        · exact ih (by simp [hv, h])

theorem split_append_cons (sep : Char) (as bs : List Char) :
    split sep (as ++ sep :: bs) = split sep as ++ split sep bs := by
  induction as with
  | nil => simp [split]
  | cons c as ih =>
    by_cases hc : c = sep
    · simp [split, hc, ih]
    · simp only [List.cons_append, split, hc, if_false, ih]
      cases h : split sep as with
      | nil => exact absurd h (split_ne_nil sep as)
      | cons w ws => rfl

theorem split_of_not_mem {sep : Char} {w : List Char} (h : sep ∉ w) : split sep w = [w] := by
  induction w with
  | nil => rfl
  | cons c w ih =>
    simp only [List.mem_cons, not_or] at h
    simp [split, Ne.symm h.1, ih h.2]

end ModuleBundler.Text
