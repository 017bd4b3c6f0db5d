import Mathlib.Data.List.Nodup
import ModuleBundler.Output.Render
import ModuleBundler.Proofs.Registry
import ModuleBundler.Proofs.Repeats

namespace ModuleBundler

theorem DependencyMap.get?_of_mem {d : DependencyMap} (hd : d.keys.Nodup) {e : String × Nat}
    (he : e ∈ d.entries) : d.get? e.1 = some e.2 := by
  obtain ⟨entries⟩ := d
  change (entries.map (·.1)).Nodup at hd
  change e ∈ entries at he
  change entries.lookup e.1 = some e.2
  induction entries with
  | nil => cases he
  | cons e' entries ih =>
    rw [List.map_cons, List.nodup_cons] at hd
    rw [List.lookup_cons]
    rcases List.mem_cons.mp he with rfl | he
    · simp
    · have hne : e.1 ≠ e'.1 := by
        intro heq
        apply hd.1
        rw [← heq]
        exact List.mem_map_of_mem he
      rw [beq_eq_false_iff_ne.mpr hne]
      exact ih hd.2 he

namespace AssetGraph

/-- Every specifier of an asset has an entry, and every entry leads to one of `size` assets. -/
structure ClosedAsset (size : Nat) (a : Asset) : Prop where
  mapped : ∀ specifier ∈ a.specifiers, specifier ∈ a.dependencies.keys
  inside : ∀ e ∈ a.dependencies.entries, e.2 < size

/-- Assets stand at their numbers under distinct paths, and nothing leads out of the graph. -/
structure Closed (g : AssetGraph) : Prop where
  entry_lt : g.entry < g.assets.size
  numbered : ∀ (i : Nat) (a : Asset), g.assets[i]? = some a → a.index = i
  distinct : (g.assets.toList.map (·.path)).Nodup
  closed : ∀ a ∈ g.assets, ClosedAsset g.assets.size a

theorem unmapped_eq_nil_iff (a : Asset) :
    a.unmapped = [] ↔ ∀ specifier ∈ a.specifiers, specifier ∈ a.dependencies.keys := by
  rw [Asset.unmapped, List.filter_eq_nil_iff]
  simp only [Bool.not_eq_true', Bool.not_eq_false, DependencyMap.contains_iff]

theorem assetViolation?_eq_none_iff (size position : Nat) (seen : List Path) (a : Asset) :
    assetViolation? size position seen a = none ↔
      a.index = position ∧ a.path ∉ seen ∧ ClosedAsset size a := by
  unfold assetViolation?
  by_cases hindex : a.index = position
  · by_cases hseen : a.path ∈ seen
    · simp [hindex, hseen]
    · have hcontains : seen.contains a.path = false := by simpa using hseen
      rw [if_neg (not_not.mpr hindex), hcontains, if_neg Bool.false_ne_true]
      cases hu : a.unmapped with
      | nil =>
        have hmapped := (unmapped_eq_nil_iff a).mp hu
        simp only [Option.map_eq_none_iff, List.find?_eq_none, decide_eq_true_eq, Nat.not_le]
        exact ⟨fun h => ⟨hindex, hseen, hmapped, h⟩, fun h => h.2.2.inside⟩
      | cons specifier rest =>
        have hne : a.unmapped ≠ [] := by simp [hu]
        constructor
        · intro h
          cases h
        · intro h
          exact absurd ((unmapped_eq_nil_iff a).mpr h.2.2.mapped) hne
  · simp [hindex]

/-- From `position` on, with the paths `seen` before it, nothing is wrong. -/
theorem firstViolation?_eq_none_iff (size position : Nat) (seen : List Path)
    (assets : List Asset) :
    firstViolation? size position seen assets = none ↔
      (∀ k a, assets[k]? = some a → a.index = position + k) ∧ (assets.map (·.path)).Nodup ∧
        (∀ a ∈ assets, a.path ∉ seen) ∧ ∀ a ∈ assets, ClosedAsset size a := by
  -- `seen` grows with the assets passed, so it is general; what is fresh after one more path is
  -- fresh before and other than that path
  induction assets generalizing position seen with
  | nil => simp [firstViolation?]
  | cons a assets ih =>
    have hcons : firstViolation? size position seen (a :: assets) = none ↔
        assetViolation? size position seen a = none ∧
          firstViolation? size (position + 1) (a.path :: seen) assets = none := by
      rw [firstViolation?]
      cases assetViolation? size position seen a <;> simp
    rw [hcons, assetViolation?_eq_none_iff, ih]
    constructor
    · rintro ⟨⟨hindex, hseen, hclosed⟩, hnumbered, hnodup, hfresh, hrest⟩
      refine ⟨?_, ?_, ?_, List.forall_mem_cons.mpr ⟨hclosed, hrest⟩⟩
      · intro k b hb
        cases k with
        | zero =>
          cases hb
          exact hindex
        | succ k =>
          have hk := hnumbered k b hb
          omega
      · refine List.nodup_cons.mpr ⟨?_, hnodup⟩
        intro hmem
        obtain ⟨b, hb, hpath⟩ := List.mem_map.mp hmem
        exact hfresh b hb (hpath ▸ List.mem_cons_self)
      · exact List.forall_mem_cons.mpr
          ⟨hseen, fun b hb hmem => hfresh b hb (List.mem_cons_of_mem _ hmem)⟩
    · rintro ⟨hnumbered, hnodup, hfresh, hclosed⟩
      obtain ⟨hpath, hnodup⟩ := List.nodup_cons.mp hnodup
      refine ⟨⟨hnumbered 0 a rfl, hfresh a List.mem_cons_self, hclosed a List.mem_cons_self⟩,
        ?_, hnodup, ?_, fun b hb => hclosed b (List.mem_cons_of_mem _ hb)⟩
      · intro k b hb
        have hk := hnumbered (k + 1) b hb
        omega
      · intro b hb hmem
        rcases List.mem_cons.mp hmem with heq | hmem
        · exact hpath (List.mem_map.mpr ⟨b, hb, heq⟩)
        · exact hfresh b (List.mem_cons_of_mem _ hb) hmem

theorem violation?_eq_none_iff (g : AssetGraph) : g.violation? = none ↔ g.Closed := by
  unfold violation?
  by_cases hentry : g.assets.size ≤ g.entry
  · rw [if_pos hentry]
    constructor
    · intro h
      cases h
    · intro h
      exact absurd h.entry_lt (Nat.not_lt_of_le hentry)
  · rw [if_neg hentry, firstViolation?_eq_none_iff]
    simp only [Array.getElem?_toList, Nat.zero_add, Array.mem_toList_iff, List.not_mem_nil,
      not_false_iff, implies_true, true_and]
    exact ⟨fun h => ⟨Nat.lt_of_not_le hentry, h.1, h.2.1, h.2.2⟩,
      fun h => ⟨h.numbered, h.distinct, h.closed⟩⟩

theorem validate_eq_ok_iff (g : AssetGraph) : g.validate = .ok () ↔ g.Closed := by
  rw [← violation?_eq_none_iff, validate]
  cases g.violation? <;> simp

theorem Closed.generate_eq {g : AssetGraph} (h : g.Closed) (cwd : Path) (name : Option String) :
    g.generate cwd name = .ok (g.bundleText cwd name) := by
  rw [generate, (validate_eq_ok_iff g).mpr h]

end AssetGraph

end ModuleBundler
