import ModuleBundler.Proofs.Graph

namespace ModuleBundler.AssetGraph

variable {g : AssetGraph} {position : Nat} {seen : List Path} {a : Asset} {v : Violation}

/-- What is wrong with the asset stored at a position. A path that occurs more than once is wrong
wherever it comes again. -/
inductive ViolatesAt (g : AssetGraph) (i : Nat) : Violation → Prop where
  | misnumbered {a : Asset} (ha : g.assets[i]? = some a) (hindex : a.index ≠ i) :
    ViolatesAt g i (.misnumbered a.path i a.index)
  | duplicated {a b : Asset} {j : Nat} (ha : g.assets[i]? = some a) (hj : j < i)
    (hb : g.assets[j]? = some b) (hpath : b.path = a.path) : ViolatesAt g i (.duplicated a.path)
  | unmapped {a : Asset} {specifier : String} (ha : g.assets[i]? = some a)
    (hmem : specifier ∈ a.specifiers) (hkey : specifier ∉ a.dependencies.keys) :
    ViolatesAt g i (.unmapped specifier a.path)
  | dangling {a : Asset} {e : String × Nat} (ha : g.assets[i]? = some a)
    (hmem : e ∈ a.dependencies.entries) (htarget : g.assets.size ≤ e.2) :
    ViolatesAt g i (.dangling e.1 a.path e.2)

theorem ViolatesAt.lt_size {i : Nat} (h : g.ViolatesAt i v) : i < g.assets.size := by
  cases h with
  | misnumbered ha | duplicated ha | unmapped ha | dangling ha =>
    exact (Array.getElem?_eq_some_iff.mp ha).1

/-- The state of the check before a position: all assets passed are sound, and their paths are
those seen. -/
structure Passed (g : AssetGraph) (position : Nat) (seen : List Path) : Prop where
  sound : ∀ i < position, ∀ v, ¬ g.ViolatesAt i v
  mem_seen : ∀ p, p ∈ seen ↔ ∃ j < position, ∃ b, g.assets[j]? = some b ∧ b.path = p

theorem Passed.violatesAt (h : g.Passed position seen) (ha : g.assets[position]? = some a)
    (hv : assetViolation? g.assets.size position seen a = some v) : g.ViolatesAt position v := by
  unfold assetViolation? at hv
  by_cases hindex : a.index = position
  · rw [if_neg (not_not.mpr hindex)] at hv
    by_cases hseen : a.path ∈ seen
    · rw [if_pos (List.contains_iff_mem.mpr hseen)] at hv
      cases hv
      obtain ⟨j, hj, b, hb, hpath⟩ := (h.mem_seen a.path).mp hseen
      exact .duplicated ha hj hb hpath
    · rw [if_neg (by rwa [List.contains_iff_mem])] at hv
      cases hunmapped : a.unmapped with
      | cons specifier rest =>
        rw [hunmapped] at hv
        cases hv
        have hmem : specifier ∈ a.unmapped := hunmapped ▸ List.mem_cons_self
        obtain ⟨hmem, hkey⟩ := List.mem_filter.mp hmem
        refine .unmapped ha hmem ?_
        rwa [← DependencyMap.contains_iff, Bool.not_eq_true, ← Bool.not_eq_true']
      | nil =>
        rw [hunmapped] at hv
        obtain ⟨e, hfind, rfl⟩ := Option.map_eq_some_iff.mp hv
        have htarget := List.find?_some hfind
        exact .dangling ha (List.mem_of_find?_eq_some hfind) (of_decide_eq_true htarget)
  · rw [if_pos hindex] at hv
    cases hv
    exact .misnumbered ha hindex

theorem Passed.not_violatesAt (h : g.Passed position seen) (ha : g.assets[position]? = some a)
    (hnone : assetViolation? g.assets.size position seen a = none) (v : Violation) :
    ¬ g.ViolatesAt position v := by
  obtain ⟨hindex, hseen, hclosed⟩ :=
    (assetViolation?_eq_none_iff g.assets.size position seen a).mp hnone
  intro hv
  cases hv with
  | misnumbered ha' hindex' =>
    cases ha.symm.trans ha'
    exact hindex' hindex
  | @duplicated a' b j ha' hj hb hpath =>
    cases ha.symm.trans ha'
    exact hseen ((h.mem_seen a.path).mpr ⟨j, hj, b, hb, hpath⟩)
  | unmapped ha' hmem hkey =>
    cases ha.symm.trans ha'
    exact hkey (hclosed.mapped _ hmem)
  | dangling ha' hmem htarget =>
    cases ha.symm.trans ha'
    exact absurd (hclosed.inside _ hmem) (Nat.not_lt_of_le htarget)

/-- A sound asset more. -/
theorem Passed.step (h : g.Passed position seen) (ha : g.assets[position]? = some a)
    (hnone : assetViolation? g.assets.size position seen a = none) :
    g.Passed (position + 1) (a.path :: seen) := by
  constructor
  · intro i hi v
    rcases Nat.lt_succ_iff_lt_or_eq.mp hi with hlt | rfl
    · exact h.sound i hlt v
    · exact h.not_violatesAt ha hnone v
  · intro p
    rw [List.mem_cons, h.mem_seen]
    constructor
    · rintro (rfl | ⟨j, hj, hb⟩)
      · exact ⟨position, Nat.lt_succ_self position, a, ha, rfl⟩
      · exact ⟨j, Nat.lt_succ_of_lt hj, hb⟩
    · rintro ⟨j, hj, b, hb, rfl⟩
      rcases Nat.lt_succ_iff_lt_or_eq.mp hj with hlt | rfl
      · exact .inr ⟨j, hlt, b, hb, rfl⟩
      · cases ha.symm.trans hb
        exact .inl rfl

/-- From a position on, the check either comes to the first flaw or passes all assets. -/
theorem Passed.run {assets : List Asset} (h : g.Passed position seen)
    (hrest : g.assets.toList.drop position = assets) :
    match firstViolation? g.assets.size position seen assets with
    | some v => ∃ i, g.ViolatesAt i v ∧ ∀ j < i, ∀ w, ¬ g.ViolatesAt j w
    | none => ∀ i v, ¬ g.ViolatesAt i v := by
  induction assets generalizing position seen with
  | nil =>
    intro i v hv
    have hsize : g.assets.size ≤ position := by simpa using List.drop_eq_nil_iff.mp hrest
    exact h.sound i (Nat.lt_of_lt_of_le hv.lt_size hsize) v hv
  | cons a assets ih =>
    have ha : g.assets[position]? = some a := by
      rw [← Array.getElem?_toList, ← List.head?_drop, hrest]
      rfl
    have htail : g.assets.toList.drop (position + 1) = assets := by
      rw [← List.tail_drop, hrest]
      rfl
    rw [firstViolation?]
    cases hasset : assetViolation? g.assets.size position seen a with
    | some v => exact ⟨position, h.violatesAt ha hasset, h.sound⟩
    | none => exact ih (h.step ha hasset) htail

end ModuleBundler.AssetGraph
