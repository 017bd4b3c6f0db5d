import Mathlib.Data.List.Induction
import Mathlib.Data.List.Nodup

namespace ModuleBundler

variable {α β : Type} [BEq α] [LawfulBEq α] [BEq β] [LawfulBEq β] {xs : List α}

/-- One more element is one more that stays, unless it was there before. -/
theorem eraseDups_concat (xs : List α) (x : α) :
    (xs ++ [x]).eraseDups = if x ∈ xs then xs.eraseDups else xs.eraseDups ++ [x] := by
  rw [List.eraseDups_append]
  by_cases hx : x ∈ xs
  · have hnone : [x].removeAll xs = [] := by simp [List.removeAll, hx]
    rw [if_pos hx, hnone, List.eraseDups_nil, List.append_nil]
  · have hone : [x].removeAll xs = [x] := by simp [List.removeAll, hx]
    rw [if_neg hx, hone]
    rfl

theorem nodup_eraseDups (xs : List α) : xs.eraseDups.Nodup := by
  induction xs using List.reverseRecOn with
  | nil => exact List.nodup_nil
  | append_singleton xs x ih =>
    rw [eraseDups_concat]
    split_ifs with hx
    · exact ih
    · exact ih.append (List.nodup_singleton x) (by simpa using hx)

theorem eraseDups_of_nodup (h : xs.Nodup) : xs.eraseDups = xs := by
  induction xs using List.reverseRecOn with
  | nil => rfl
  | append_singleton xs x ih =>
    obtain ⟨hxs, -, hdisjoint⟩ := List.nodup_append'.mp h
    rw [eraseDups_concat, if_neg (fun hx => hdisjoint hx (List.mem_singleton_self x)), ih hxs]

/-- A repetition is never the first to be found. -/
theorem find?_eraseDups (p : α → Bool) (xs : List α) : xs.eraseDups.find? p = xs.find? p := by
  induction xs using List.reverseRecOn with
  | nil => rfl
  | append_singleton xs x ih =>
    rw [eraseDups_concat, List.find?_append]
    split_ifs with hx
    · rw [ih]
      cases hfind : xs.find? p with
      | some found => rfl
      | none =>
        rw [List.find?_cons_of_neg (List.find?_eq_none.mp hfind x hx)]
        rfl
    · rw [List.find?_append, ih]

/-- Repetitions may be left out before a list is mapped as well. -/
theorem eraseDups_map_eraseDups (f : α → β) (xs : List α) :
    (xs.eraseDups.map f).eraseDups = (xs.map f).eraseDups := by
  induction xs using List.reverseRecOn with
  | nil => rfl
  | append_singleton xs x ih =>
    have hmem : f x ∈ xs.eraseDups.map f ↔ f x ∈ xs.map f := by simp
    rw [eraseDups_concat, List.map_append, List.map_singleton, eraseDups_concat]
    by_cases hx : x ∈ xs
    · rw [if_pos hx, if_pos (List.mem_map_of_mem hx), ih]
    · rw [if_neg hx, List.map_append, List.map_singleton, eraseDups_concat, ih]
      simp only [hmem]

end ModuleBundler
