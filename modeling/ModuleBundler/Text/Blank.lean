namespace ModuleBundler.Text

/-- The property White_Space. -/
def isBlank (c : Char) : Bool :=
  (0x09 ≤ c.toNat && c.toNat ≤ 0x0d) || c.toNat == 0x20 || c.toNat == 0x85 || c.toNat == 0xa0 ||
  c.toNat == 0x1680 || (0x2000 ≤ c.toNat && c.toNat ≤ 0x200a) || c.toNat == 0x2028 ||
  c.toNat == 0x2029 || c.toNat == 0x202f || c.toNat == 0x205f || c.toNat == 0x3000

/-- Drops the elements at the end that satisfy `p`. -/
def dropWhileEnd (p : α → Bool) (xs : List α) : List α :=
  (xs.reverse.dropWhile p).reverse

def trimChars (cs : List Char) : List Char :=
  dropWhileEnd isBlank (cs.dropWhile isBlank)

def trim (s : String) : String := String.ofList (trimChars s.toList)

theorem isBlank_of_isWhitespace {c : Char} (h : c.isWhitespace = true) : isBlank c = true := by
  simp only [Char.isWhitespace, Bool.or_eq_true, decide_eq_true_eq] at h
  rcases h with ((rfl | rfl) | rfl) | rfl <;> decide

theorem dropWhileEnd_append (p : α → Bool) (xs ys : List α) (h : ∀ y ∈ ys, p y = true) :
    dropWhileEnd p (xs ++ ys) = dropWhileEnd p xs := by
  simp only [dropWhileEnd, List.reverse_append]
  rw [List.dropWhile_append_of_pos (fun y hy => h y (by simpa using hy))]

theorem toList_trim (s : String) : (trim s).toList = trimChars s.toList := by
  simp [trim]

end ModuleBundler.Text
