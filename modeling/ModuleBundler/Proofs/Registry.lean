import Mathlib.Tactic.Common
import ModuleBundler.Graph.Registry

namespace ModuleBundler

namespace DependencyMap

theorem contains_eq_isSome (d : DependencyMap) (specifier : String) :
    d.contains specifier = (d.get? specifier).isSome := by
  unfold contains get?
  induction d.entries with
  | nil => rfl
  | cons e es ih =>
    obtain ⟨key, target⟩ := e
    rw [List.any_cons, List.lookup_cons, ih]
    by_cases h : key = specifier
    · simp [h]
    · simp [beq_eq_false_iff_ne.mpr h, beq_eq_false_iff_ne.mpr (Ne.symm h)]

theorem mem_keys_iff (d : DependencyMap) (specifier : String) :
    specifier ∈ d.keys ↔ ∃ target, d.get? specifier = some target := by
  rw [← d.contains_iff, d.contains_eq_isSome, Option.isSome_iff_exists]

end DependencyMap

namespace Registry

variable (r : Registry) (i j : Nat) (p : Path)

theorem asset_eq_getD : r.asset i = (r.assets[i]?).getD default := by
  rw [asset, Array.getElem!_eq_getD, Array.getD_eq_getD_getElem?]

theorem asset_eq_of_getElem? {r : Registry} {i : Nat} {a : Asset} (h : r.assets[i]? = some a) :
    r.asset i = a := by
  rw [asset_eq_getD, h, Option.getD_some]

theorem getElem?_assets (h : i < r.assets.size) : r.assets[i]? = some (r.asset i) := by
  rw [asset_eq_getD, Array.getElem?_eq_getElem h, Option.getD_some]

theorem getElem?_eq_some_iff {r : Registry} {i : Nat} {a : Asset} :
    r.assets[i]? = some a ↔ i < r.assets.size ∧ r.asset i = a := by
  constructor
  · intro h
    exact ⟨(Array.getElem?_eq_some_iff.mp h).1, asset_eq_of_getElem? h⟩
  · rintro ⟨hi, rfl⟩
    exact r.getElem?_assets i hi

theorem asset_push (a : Asset) :
    (r.push a).asset i = if i = r.assets.size then a else r.asset i := by
  simp only [asset_eq_getD, push, Array.getElem?_push]
  split_ifs <;> rfl

theorem lookup_push_next (source : String) (q : Path) :
    (r.push (r.next p source)).lookup q = if q = p then some r.assets.size else r.lookup q :=
  lookup_push r _ q

theorem asset_modify (f : Asset → Asset) :
    (r.modify i f).asset j = if j = i ∧ j < r.assets.size then f (r.asset j) else r.asset j := by
  simp only [asset_eq_getD, modify, Array.getElem?_modify]
  by_cases hj : j < r.assets.size
  · by_cases hi : i = j
    · simp [hi, hj]
    · simp [hi, Ne.symm hi]
  · have hn : r.assets[j]? = none := Array.getElem?_eq_none (Nat.le_of_not_lt hj)
    simp [hj]

/-- What a change leaves alone in every asset stays as it was. -/
theorem proj_modify {β : Type} (proj : Asset → β) (f : Asset → Asset)
    (hf : ∀ a, proj (f a) = proj a) : proj ((r.modify i f).asset j) = proj (r.asset j) := by
  rw [asset_modify]
  split_ifs
  · exact hf _
  · rfl

section

variable (specifier : String) (target : Nat) (specifiers : List String)

@[simp] theorem size_link : (r.link i specifier target).assets.size = r.assets.size :=
  size_modify r i _

@[simp] theorem index_link : ((r.link i specifier target).asset j).index = (r.asset j).index :=
  proj_modify r i j _ _ fun _ => rfl

@[simp] theorem path_link : ((r.link i specifier target).asset j).path = (r.asset j).path :=
  proj_modify r i j _ _ fun _ => rfl

@[simp] theorem source_link : ((r.link i specifier target).asset j).source = (r.asset j).source :=
  proj_modify r i j _ _ fun _ => rfl

@[simp] theorem specifiers_link :
    ((r.link i specifier target).asset j).specifiers = (r.asset j).specifiers :=
  proj_modify r i j _ _ fun _ => rfl

theorem dependencies_link :
    ((r.link i specifier target).asset j).dependencies =
      if j = i ∧ j < r.assets.size then (r.asset j).dependencies.insert specifier target
      else (r.asset j).dependencies := by
  rw [link, asset_modify]
  split_ifs <;> rfl

theorem get?_link (hi : i < r.assets.size) (other : String) :
    ((r.link i specifier target).asset j).dependencies.get? other =
      if j = i ∧ other = specifier then some target else (r.asset j).dependencies.get? other := by
  rw [dependencies_link]
  by_cases hj : j = i
  · subst hj
    rw [if_pos ⟨rfl, hi⟩, DependencyMap.get?_insert]
    simp
  · rw [if_neg fun h => hj h.1, if_neg fun h => hj h.1]

@[simp] theorem size_setSpecifiers : (r.setSpecifiers i specifiers).assets.size = r.assets.size :=
  size_modify r i _

@[simp] theorem index_setSpecifiers :
    ((r.setSpecifiers i specifiers).asset j).index = (r.asset j).index :=
  proj_modify r i j _ _ fun _ => rfl

@[simp] theorem path_setSpecifiers :
    ((r.setSpecifiers i specifiers).asset j).path = (r.asset j).path :=
  proj_modify r i j _ _ fun _ => rfl

@[simp] theorem source_setSpecifiers :
    ((r.setSpecifiers i specifiers).asset j).source = (r.asset j).source :=
  proj_modify r i j _ _ fun _ => rfl

@[simp] theorem dependencies_setSpecifiers :
    ((r.setSpecifiers i specifiers).asset j).dependencies = (r.asset j).dependencies :=
  proj_modify r i j _ _ fun _ => rfl

theorem specifiers_setSpecifiers :
    ((r.setSpecifiers i specifiers).asset j).specifiers =
      if j = i ∧ j < r.assets.size then specifiers else (r.asset j).specifiers := by
  rw [setSpecifiers, asset_modify]
  split_ifs <;> rfl

end

theorem isLinked_eq (specifier : String) :
    r.isLinked i specifier = ((r.asset i).dependencies.get? specifier).isSome := by
  rw [isLinked, ← DependencyMap.contains_eq_isSome, asset_eq_getD]
  cases r.assets[i]? with
  | none => rfl
  | some a => rfl

/-- Assets stand at their own numbers, and the table holds their paths and no others. -/
structure WellFormed (r : Registry) : Prop where
  numbered : ∀ i < r.assets.size, (r.asset i).index = i
  lookup_iff : ∀ p i, r.lookup p = some i ↔ i < r.assets.size ∧ (r.asset i).path = p

theorem wellFormed_empty : ({} : Registry).WellFormed :=
  ⟨fun i hi => absurd hi (Nat.not_lt_zero i), fun p i =>
    ⟨fun h => absurd h (by simp [lookup]), fun h => absurd h.1 (Nat.not_lt_zero i)⟩⟩

namespace WellFormed

variable {r}

theorem path_inj (hr : r.WellFormed) (hi : i < r.assets.size) (hj : j < r.assets.size)
    (h : (r.asset i).path = (r.asset j).path) : i = j := by
  have hi' := (hr.lookup_iff (r.asset j).path i).mpr ⟨hi, h⟩
  have hj' := (hr.lookup_iff (r.asset j).path j).mpr ⟨hj, rfl⟩
  exact Option.some.inj (hi'.symm.trans hj')

theorem push (hr : r.WellFormed) (source : String) (h : r.lookup p = none) :
    (r.push (r.next p source)).WellFormed := by
  refine ⟨?_, ?_⟩
  · intro i hi
    rw [size_push] at hi
    rw [asset_push]
    split_ifs with he
    · exact he.symm
    · exact hr.numbered i (by omega)
  · intro q i
    rw [lookup_push_next, asset_push, size_push]
    by_cases hq : q = p
    · subst q
      rw [if_pos rfl, Option.some.injEq]
      constructor
      · intro hi
        subst i
        exact ⟨by omega, by rw [if_pos rfl]; rfl⟩
      · intro ⟨hi, hp⟩
        by_contra hne
        rw [if_neg (Ne.symm hne)] at hp
        have hl := (hr.lookup_iff p i).mpr ⟨by omega, hp⟩
        rw [h] at hl
        cases hl
    · rw [if_neg hq, hr.lookup_iff]
      constructor
      · intro ⟨hi, hp⟩
        exact ⟨by omega, by rw [if_neg (by omega)]; exact hp⟩
      · intro ⟨hi, hp⟩
        split_ifs at hp with he
        · exact absurd hp.symm hq
        · exact ⟨by omega, hp⟩

/-- A change that leaves number and path of every asset alone. -/
theorem modify (hr : r.WellFormed) (f : Asset → Asset) (hindex : ∀ a, (f a).index = a.index)
    (hpath : ∀ a, (f a).path = a.path) : (r.modify i f).WellFormed := by
  refine ⟨fun j hj => ?_, fun q j => ?_⟩
  · rw [size_modify] at hj
    rw [proj_modify r i j Asset.index f hindex]
    exact hr.numbered j hj
  · rw [lookup_modify, size_modify, proj_modify r i j Asset.path f hpath]
    exact hr.lookup_iff q j

theorem link (hr : r.WellFormed) (specifier : String) (target : Nat) :
    (r.link i specifier target).WellFormed :=
  hr.modify i _ (fun _ => rfl) fun _ => rfl

theorem setSpecifiers (hr : r.WellFormed) (specifiers : List String) :
    (r.setSpecifiers i specifiers).WellFormed :=
  hr.modify i _ (fun _ => rfl) fun _ => rfl

end WellFormed

/-- The assets of `r` are assets of `r'`, under the same numbers and with the same paths, texts
and specifiers. -/
structure Extends (r r' : Registry) : Prop where
  size_le : r.assets.size ≤ r'.assets.size
  path : ∀ i < r.assets.size, (r'.asset i).path = (r.asset i).path
  source : ∀ i < r.assets.size, (r'.asset i).source = (r.asset i).source
  specifiers : ∀ i < r.assets.size, (r'.asset i).specifiers = (r.asset i).specifiers

namespace Extends

variable {r}

theorem refl : r.Extends r :=
  ⟨Nat.le_refl _, fun _ _ => rfl, fun _ _ => rfl, fun _ _ => rfl⟩

theorem trans {r' r'' : Registry} (h : r.Extends r') (h' : r'.Extends r'') : r.Extends r'' := by
  have lt (i : Nat) (hi : i < r.assets.size) : i < r'.assets.size :=
    Nat.lt_of_lt_of_le hi h.size_le
  exact ⟨Nat.le_trans h.size_le h'.size_le,
    fun i hi => (h'.path i (lt i hi)).trans (h.path i hi),
    fun i hi => (h'.source i (lt i hi)).trans (h.source i hi),
    fun i hi => (h'.specifiers i (lt i hi)).trans (h.specifiers i hi)⟩

theorem push (a : Asset) : r.Extends (r.push a) := by
  have old (i : Nat) (hi : i < r.assets.size) : (r.push a).asset i = r.asset i := by
    rw [asset_push, if_neg (by omega)]
  exact ⟨by simp, fun i hi => by rw [old i hi], fun i hi => by rw [old i hi],
    fun i hi => by rw [old i hi]⟩

theorem link (specifier : String) (target : Nat) : r.Extends (r.link i specifier target) :=
  ⟨by simp, by simp, by simp, by simp⟩

/-- The specifiers of an asset registered later may be set. -/
theorem setSpecifiers {r' : Registry} (h : r.Extends r') (hi : r.assets.size ≤ i)
    (specifiers : List String) : r.Extends (r'.setSpecifiers i specifiers) := by
  refine ⟨by simpa using h.size_le, fun j hj => by simpa using h.path j hj,
    fun j hj => by simpa using h.source j hj, fun j hj => ?_⟩
  rw [specifiers_setSpecifiers, if_neg (by omega)]
  exact h.specifiers j hj

end Extends

end Registry

end ModuleBundler
