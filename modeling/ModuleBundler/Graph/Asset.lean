import ModuleBundler.Path.Basic

namespace ModuleBundler

/-- Specifiers with the numbers of the assets they lead to, in order of first insertion. -/
structure DependencyMap where
  entries : List (String × Nat) := []
deriving DecidableEq, Repr, Inhabited

namespace DependencyMap

def get? (d : DependencyMap) (specifier : String) : Option Nat := d.entries.lookup specifier

def contains (d : DependencyMap) (specifier : String) : Bool :=
  d.entries.any (·.1 == specifier)

/-- Replaces the value under a key, in its place. -/
def replaceValue (specifier : String) (target : Nat) : List (String × Nat) → List (String × Nat)
  | [] => []
  | e :: es =>
    if e.1 = specifier then (e.1, target) :: es else e :: replaceValue specifier target es

/-- A known specifier keeps its place and takes the new value; a new one comes last. -/
def insert (d : DependencyMap) (specifier : String) (target : Nat) : DependencyMap :=
  if d.contains specifier then ⟨replaceValue specifier target d.entries⟩
  else ⟨d.entries ++ [(specifier, target)]⟩

def ofList (pairs : List (String × Nat)) : DependencyMap :=
  pairs.foldl (fun d e => d.insert e.1 e.2) {}

/-- The specifiers in order of first insertion. -/
def keys (d : DependencyMap) : List String := d.entries.map (·.1)

theorem contains_iff (d : DependencyMap) (specifier : String) :
    d.contains specifier = true ↔ specifier ∈ d.keys := by
  simp [contains, keys]

theorem map_replaceValue (specifier : String) (target : Nat) (es : List (String × Nat)) :
    (replaceValue specifier target es).map (·.1) = es.map (·.1) := by
  induction es with
  | nil => rfl
  | cons e es ih =>
    unfold replaceValue
    split <;> simp [ih]

theorem keys_insert (d : DependencyMap) (specifier : String) (target : Nat) :
    (d.insert specifier target).keys =
      if specifier ∈ d.keys then d.keys else d.keys ++ [specifier] := by
  unfold insert
  by_cases h : d.contains specifier = true
  · rw [if_pos h, if_pos ((d.contains_iff specifier).mp h)]
    exact map_replaceValue specifier target d.entries
  · rw [if_neg h, if_neg (fun hm => h ((d.contains_iff specifier).mpr hm))]
    simp [keys]

theorem lookup_replaceValue (specifier other : String) (target : Nat) (es : List (String × Nat)) :
    (replaceValue specifier target es).lookup other =
      if other = specifier ∧ specifier ∈ es.map (·.1) then some target else es.lookup other := by
  induction es with
  | nil => simp [replaceValue]
  | cons e es ih =>
    obtain ⟨k, v⟩ := e
    unfold replaceValue
    by_cases hk : k = specifier
    · subst hk
      by_cases ho : other = k
      · simp [ho]
      · simp [List.lookup_cons, beq_eq_false_iff_ne.mpr ho, ho]
    · by_cases ho : other = k
      · subst ho
        simp [hk]
      · have hm : specifier ∈ ((k, v) :: es).map (·.1) ↔ specifier ∈ es.map (·.1) := by
          simp [Ne.symm hk]
        simp only [hm]
        simp [List.lookup_cons, hk, beq_eq_false_iff_ne.mpr ho, ih]

theorem get?_insert (d : DependencyMap) (specifier other : String) (target : Nat) :
    (d.insert specifier target).get? other =
      if other = specifier then some target else d.get? other := by
  unfold insert
  by_cases h : d.contains specifier = true
  · have hk := (d.contains_iff specifier).mp h
    rw [if_pos h]
    simp only [get?, lookup_replaceValue]
    by_cases ho : other = specifier
    · simp only [ho, true_and, if_true]
      exact if_pos hk
    · simp [ho]
  · have hk : ∀ v, (specifier, v) ∉ d.entries := fun v hv =>
      h ((d.contains_iff specifier).mpr (List.mem_map.mpr ⟨_, hv, rfl⟩))
    rw [if_neg h]
    simp only [get?, List.lookup_append]
    by_cases ho : other = specifier
    · subst ho
      have : d.entries.lookup other = none := by
        rw [List.lookup_eq_none_iff]
        intro e he
        simp only [bne_iff_ne, ne_eq]
        intro heq
        exact hk e.2 (heq ▸ he)
      simp [this]
    · simp [List.lookup_cons, beq_eq_false_iff_ne.mpr ho, ho]

end DependencyMap

/-- A module of a bundle. -/
structure Asset where
  index : Nat
  path : Path
  source : String
  /-- As written, in source order, duplicates kept. -/
  specifiers : List String := []
  dependencies : DependencyMap := {}
deriving DecidableEq, Repr, Inhabited

namespace Asset

/-- The specifiers that lead nowhere yet, in order. -/
def unmapped (a : Asset) : List String := a.specifiers.filter (!a.dependencies.contains ·)

end Asset

end ModuleBundler
