import Mathlib.Data.List.Chain
import ModuleBundler.Proofs.Discovery.Run
import ModuleBundler.Proofs.Repeats

namespace ModuleBundler

namespace Registry

/-- Asset `i` has a specifier recorded to lead to asset `j`. -/
def Edge (r : Registry) (i j : Nat) : Prop :=
  ∃ specifier, (r.asset i).dependencies.get? specifier = some j

section Edge

variable (r : Registry) {i : Nat} {specifier : String}

/-- An entry under a new key takes none away. -/
theorem exists_get?_update {d d' : DependencyMap} {c : Prop} [Decidable c] {j k : Nat}
    (hnew : c → d.get? specifier = none)
    (hd : ∀ other, d'.get? other = if c ∧ other = specifier then some j else d.get? other) :
    (∃ other, d'.get? other = some k) ↔ (∃ other, d.get? other = some k) ∨ c ∧ k = j := by
  constructor
  · rintro ⟨other, h⟩
    rw [hd] at h
    split_ifs at h with hc
    · exact .inr ⟨hc.1, (Option.some.inj h).symm⟩
    · exact .inl ⟨other, h⟩
  · rintro (⟨other, h⟩ | ⟨hc, rfl⟩)
    · refine ⟨other, ?_⟩
      rw [hd, if_neg]
      · exact h
      · rintro ⟨hc, rfl⟩
        rw [hnew hc] at h
        cases h
    · exact ⟨specifier, by rw [hd, if_pos ⟨hc, rfl⟩]⟩

theorem edge_link (hi : i < r.assets.size) (target : Nat) (k m : Nat)
    (hnew : (r.asset i).dependencies.get? specifier = none) :
    (r.link i specifier target).Edge k m ↔ r.Edge k m ∨ k = i ∧ m = target :=
  exists_get?_update (fun hk => hk ▸ hnew) (r.get?_link i k specifier target hi)

theorem edge_grow (hi : i < r.assets.size) (target : Path) (source : String)
    (specifiers : List String) (k m : Nat)
    (hnew : (r.asset i).dependencies.get? specifier = none) :
    (r.grow i specifier target source specifiers).Edge k m ↔
      r.Edge k m ∨ k = i ∧ m = r.assets.size :=
  exists_get?_update (fun hk => hk ▸ hnew) (r.get?_grow i k specifier target source specifiers hi)

end Edge

end Registry

namespace Discovery

variable {ε : Type} {host : Host (Except ε)} {entry : String} {s t : State}

/-- Everything in the registry is as the host says, and each asset but the first was imported by
one before it. -/
structure Registered (host : Host (Except ε)) (entry : String) (r : Registry) : Prop where
  wellFormed : r.WellFormed
  nonempty : 0 < r.assets.size
  entry_resolved : host.resolveEntry entry = .ok (r.asset 0).path
  loaded : ∀ i < r.assets.size, host.load (r.asset i).path = .ok (r.asset i).source
  extracted : ∀ i < r.assets.size,
    host.extract (r.asset i).source (r.asset i).path = .ok (r.asset i).specifiers
  resolved : ∀ i < r.assets.size, ∀ specifier j,
    (r.asset i).dependencies.get? specifier = some j →
      j < r.assets.size ∧ host.resolve specifier (r.asset i).path = .ok (r.asset j).path
  imported : ∀ j < r.assets.size, j ≠ 0 → ∃ i < j, r.Edge i j

def visiting (stack : List Frame) : List Nat := stack.map (·.index)

/-- The modules being visited are newer towards the top, each imported by the one below, and
`active` mirrors them. -/
structure Stacked (r : Registry) (active : Array Nat) (stack : List Frame) : Prop where
  active_eq : active.toList = (visiting stack).reverse
  lt_size : ∀ i ∈ visiting stack, i < r.assets.size
  sorted : (visiting stack).Pairwise fun i j => j < i
  edges : (visiting stack).IsChain fun i j => r.Edge j i

/-- The recorded specifiers are those looked at, each once, in the order of the first look. -/
structure Mapped (r : Registry) (stack : List Frame) : Prop where
  suspended : ∀ f ∈ stack, (r.asset f.index).dependencies.keys =
    ((r.asset f.index).specifiers.take f.next).eraseDups
  finished : ∀ i < r.assets.size, i ∉ visiting stack →
    (r.asset i).dependencies.keys = (r.asset i).specifiers.eraseDups

/-- What holds in every state of a discovery. -/
structure Invariant (host : Host (Except ε)) (entry : String) (s : State) : Prop where
  registered : Registered host entry s.registry
  stacked : Stacked s.registry s.active s.stack
  mapped : Mapped s.registry s.stack

namespace Registered

variable {r : Registry} {i j : Nat} {specifier : String} {target : Path}

theorem link (h : Registered host entry r) (hi : i < r.assets.size)
    (hnew : (r.asset i).dependencies.get? specifier = none)
    (hr : host.resolve specifier (r.asset i).path = .ok target) (hj : r.lookup target = some j) :
    Registered host entry (r.link i specifier j) := by
  obtain ⟨hlt, hpath⟩ := (h.wellFormed.lookup_iff target j).mp hj
  refine ⟨h.wellFormed.link i specifier j, by simpa using h.nonempty,
    by simpa using h.entry_resolved, by simpa using h.loaded, by simpa using h.extracted, ?_, ?_⟩
  · intro k hk other m hm
    rw [Registry.size_link] at hk ⊢
    rw [Registry.path_link, Registry.path_link]
    rw [Registry.get?_link _ _ _ _ _ hi] at hm
    split_ifs at hm with hc
    · obtain ⟨rfl, rfl⟩ := hc
      cases hm
      exact ⟨hlt, by rw [hpath]; exact hr⟩
    · exact h.resolved k hk other m hm
  · intro k hk hne
    rw [Registry.size_link] at hk
    obtain ⟨m, hm, he⟩ := h.imported k hk hne
    exact ⟨m, hm, (r.edge_link hi j m k hnew).mpr (.inl he)⟩

theorem grow (h : Registered host entry r) (hi : i < r.assets.size)
    (hnew : (r.asset i).dependencies.get? specifier = none)
    (hr : host.resolve specifier (r.asset i).path = .ok target) (hj : r.lookup target = none)
    {source : String} {specifiers : List String} (hsource : host.load target = .ok source)
    (hspecifiers : host.extract source target = .ok specifiers) :
    Registered host entry (r.grow i specifier target source specifiers) := by
  have hne := h.nonempty
  refine ⟨h.wellFormed.grow i specifier target source specifiers hj, by simp, ?_, ?_, ?_, ?_, ?_⟩
  · rw [Registry.path_grow, if_neg (by omega)]
    exact h.entry_resolved
  · intro k hk
    rw [Registry.size_grow] at hk
    rw [Registry.path_grow, Registry.source_grow]
    split_ifs with hc
    · exact hsource
    · exact h.loaded k (by omega)
  · intro k hk
    rw [Registry.size_grow] at hk
    rw [Registry.path_grow, Registry.source_grow, Registry.specifiers_grow]
    split_ifs with hc
    · exact hspecifiers
    · exact h.extracted k (by omega)
  · intro k hk other m hm
    rw [Registry.size_grow] at hk ⊢
    rw [Registry.path_grow, Registry.path_grow]
    rw [Registry.get?_grow _ _ _ _ _ _ _ hi] at hm
    split_ifs at hm with hc
    · obtain ⟨rfl, rfl⟩ := hc
      cases hm
      rw [if_pos rfl, if_neg (by omega)]
      exact ⟨by omega, hr⟩
    · by_cases hnewest : k = r.assets.size
      · -- the newest asset has nothing recorded
        have hnone : r.assets[k]? = none := by simp [hnewest]
        rw [Registry.asset_eq_getD, hnone] at hm
        cases hm
      · obtain ⟨hlt, hres⟩ := h.resolved k (by omega) other m hm
        rw [if_neg hnewest, if_neg (by omega)]
        exact ⟨by omega, hres⟩
  · intro k hk hk0
    rw [Registry.size_grow] at hk
    by_cases hc : k = r.assets.size
    · exact ⟨i, by omega, (r.edge_grow hi _ _ _ i k hnew).mpr (.inr ⟨rfl, hc⟩)⟩
    · obtain ⟨m, hm, he⟩ := h.imported k (by omega) hk0
      exact ⟨m, hm, (r.edge_grow hi _ _ _ m k hnew).mpr (.inl he)⟩

end Registered

namespace Stacked

variable {r r' : Registry} {active : Array Nat} {stack rest : List Frame} {i next : Nat}

theorem leave (h : Stacked r active (⟨i, next⟩ :: rest)) : Stacked r active.pop rest := by
  refine ⟨?_, fun j hj => h.lt_size j (List.mem_cons_of_mem i hj),
    (List.pairwise_cons.mp h.sorted).2, h.edges.tail⟩
  have ha : active.toList = (visiting rest).reverse ++ [i] := by
    rw [h.active_eq, visiting, List.map_cons, List.reverse_cons]
    rfl
  rw [Array.toList_pop, ha, List.dropLast_concat]

/-- The positions on the stack do not matter, and more edges do no harm. -/
theorem mono (h : Stacked r active stack) {stack' : List Frame}
    (hv : visiting stack' = visiting stack) (hsize : r.assets.size ≤ r'.assets.size)
    (he : ∀ k m, r.Edge k m → r'.Edge k m) : Stacked r' active stack' := by
  refine ⟨by rw [hv]; exact h.active_eq, ?_, by rw [hv]; exact h.sorted, ?_⟩
  · intro j hj
    rw [hv] at hj
    exact Nat.lt_of_lt_of_le (h.lt_size j hj) hsize
  · rw [hv]
    exact h.edges.imp fun k m hkm => he m k hkm

theorem index_lt (h : Stacked r active stack) (hs : stack = ⟨i, next⟩ :: rest) :
    i < r.assets.size := by
  apply h.lt_size i
  rw [hs]
  exact List.mem_cons_self

theorem lt_index (h : Stacked r active (⟨i, next⟩ :: rest)) {j : Nat} (hj : j ∈ visiting rest) :
    j < i :=
  (List.pairwise_cons.mp h.sorted).1 j hj

theorem descend (h : Stacked r active (⟨i, next⟩ :: rest)) {n : Nat} (hn : n = r.assets.size)
    (hsize : r'.assets.size = n + 1) (he : ∀ k m, r'.Edge k m ↔ r.Edge k m ∨ k = i ∧ m = n) :
    Stacked r' (activate active n) (⟨n, 0⟩ :: ⟨i, next + 1⟩ :: rest) := by
  subst hn
  have hnew : r.assets.size ∉ active := by
    intro hmem
    rw [← Array.mem_toList_iff, h.active_eq, List.mem_reverse] at hmem
    have hlt := h.lt_size _ hmem
    omega
  refine ⟨?_, ?_, ?_, ?_⟩
  · rw [activate, if_neg (by simpa using hnew), Array.toList_push, h.active_eq]
    simp [visiting]
  · intro j hj
    rcases List.mem_cons.mp hj with hj | hj
    · rw [hj, hsize]
      exact Nat.lt_succ_self _
    · have hlt := h.lt_size j hj
      omega
  · exact List.pairwise_cons.mpr ⟨fun j hj => h.lt_size j hj, h.sorted⟩
  · exact List.isChain_cons_cons.mpr ⟨(he _ _).mpr (.inr ⟨rfl, rfl⟩),
      h.edges.imp fun k m hkm => (he m k).mpr (.inl hkm)⟩

end Stacked

/-- One more specifier looked at is one more key, unless it was looked at before. -/
theorem eraseDups_take_succ {specifiers : List String} {next : Nat} {specifier : String}
    (hn : specifiers[next]? = some specifier) :
    (specifiers.take (next + 1)).eraseDups =
      if specifier ∈ (specifiers.take next).eraseDups then (specifiers.take next).eraseDups
      else (specifiers.take next).eraseDups ++ [specifier] := by
  simp only [List.take_add_one, hn, Option.toList_some, eraseDups_concat, List.mem_eraseDups]

namespace Mapped

variable {r r' : Registry} {rest : List Frame} {i next : Nat} {specifier : String}

theorem leave (h : Mapped r (⟨i, next⟩ :: rest)) (hn : (r.asset i).specifiers[next]? = none) :
    Mapped r rest := by
  refine ⟨fun f hf => h.suspended f (List.mem_cons_of_mem _ hf), ?_⟩
  intro j hj hrest
  by_cases hji : j = i
  · have htop := h.suspended ⟨i, next⟩ List.mem_cons_self
    rw [List.take_of_length_le (List.getElem?_eq_none_iff.mp hn)] at htop
    rw [hji]
    exact htop
  · refine h.finished j hj ?_
    intro hmem
    rcases List.mem_cons.mp hmem with hmem | hmem
    · exact hji hmem
    · exact hrest hmem

/-- A specifier that has an entry already is one of those looked at. -/
theorem skip (h : Mapped r (⟨i, next⟩ :: rest))
    (hn : (r.asset i).specifiers[next]? = some specifier)
    (hl : r.isLinked i specifier = true) : Mapped r (⟨i, next + 1⟩ :: rest) := by
  refine ⟨?_, h.finished⟩
  intro f hf
  rcases List.mem_cons.mp hf with rfl | hf
  · have htop := h.suspended ⟨i, next⟩ List.mem_cons_self
    have hmem : specifier ∈ (r.asset i).dependencies.keys := by
      rw [DependencyMap.mem_keys_iff, ← Option.isSome_iff_exists, ← r.isLinked_eq]
      exact hl
    rw [eraseDups_take_succ hn, if_pos (htop ▸ hmem)]
    exact htop
  · exact h.suspended f (List.mem_cons_of_mem _ hf)

/-- An entry for the specifier looked at, in the module on top, keeps everything below. -/
theorem record (h : Mapped r (⟨i, next⟩ :: rest))
    (hn : (r.asset i).specifiers[next]? = some specifier) (hlt : ∀ j ∈ visiting rest, j < i)
    (hrest : ∀ j ∈ visiting rest, j < r.assets.size) (hi : i < r.assets.size) {target : Nat}
    (hspecifiers : ∀ j < r.assets.size, (r'.asset j).specifiers = (r.asset j).specifiers)
    (hdependencies : ∀ j < r.assets.size, (r'.asset j).dependencies =
      if j = i then (r.asset i).dependencies.insert specifier target
      else (r.asset j).dependencies) :
    (∀ f ∈ (⟨i, next + 1⟩ : Frame) :: rest, (r'.asset f.index).dependencies.keys =
      ((r'.asset f.index).specifiers.take f.next).eraseDups) ∧
    ∀ j < r.assets.size, j ≠ i → j ∉ visiting rest →
      (r'.asset j).dependencies.keys = (r'.asset j).specifiers.eraseDups := by
  constructor
  · intro f hf
    rcases List.mem_cons.mp hf with rfl | hf
    · have htop := h.suspended ⟨i, next⟩ List.mem_cons_self
      rw [hdependencies i hi, if_pos rfl, hspecifiers i hi, DependencyMap.keys_insert, htop]
      exact (eraseDups_take_succ hn).symm
    · have hmem : f.index ∈ visiting rest := List.mem_map_of_mem hf
      have hne : f.index ≠ i := Nat.ne_of_lt (hlt _ hmem)
      rw [hdependencies _ (hrest _ hmem), if_neg hne, hspecifiers _ (hrest _ hmem)]
      exact h.suspended f (List.mem_cons_of_mem _ hf)
  · intro j hj hne hmem
    rw [hdependencies j hj, if_neg hne, hspecifiers j hj]
    refine h.finished j hj ?_
    intro hv
    rcases List.mem_cons.mp hv with hv | hv
    · exact hne hv
    · exact hmem hv

theorem revisit (h : Mapped r (⟨i, next⟩ :: rest))
    (hn : (r.asset i).specifiers[next]? = some specifier) (hlt : ∀ j ∈ visiting rest, j < i)
    (hi : i < r.assets.size) (target : Nat) :
    Mapped (r.link i specifier target) (⟨i, next + 1⟩ :: rest) := by
  have hdependencies (j : Nat) (hj : j < r.assets.size) :
      ((r.link i specifier target).asset j).dependencies =
        if j = i then (r.asset i).dependencies.insert specifier target
        else (r.asset j).dependencies := by
    rw [Registry.dependencies_link]
    by_cases hji : j = i
    · rw [if_pos ⟨hji, hj⟩, if_pos hji, hji]
    · rw [if_neg (fun hc => hji hc.1), if_neg hji]
  obtain ⟨hsuspended, hfinished⟩ := h.record hn hlt (fun j hj => (hlt j hj).trans hi) hi
    (fun j _ => Registry.specifiers_link r i j specifier target) hdependencies
  refine ⟨hsuspended, ?_⟩
  intro j hj hmem
  rw [Registry.size_link] at hj
  exact hfinished j hj (fun he => hmem (he ▸ List.mem_cons_self))
    fun hv => hmem (List.mem_cons_of_mem _ hv)

/-- A specifier without an entry leads to a new module, of which nothing is recorded. -/
theorem descend (h : Mapped r (⟨i, next⟩ :: rest))
    (hn : (r.asset i).specifiers[next]? = some specifier) (hlt : ∀ j ∈ visiting rest, j < i)
    (hi : i < r.assets.size) (target : Path) (source : String) (specifiers : List String) :
    Mapped (r.grow i specifier target source specifiers)
      (⟨r.assets.size, 0⟩ :: ⟨i, next + 1⟩ :: rest) := by
  have hdependencies (j : Nat) (hj : j < r.assets.size) :
      ((r.grow i specifier target source specifiers).asset j).dependencies =
        if j = i then (r.asset i).dependencies.insert specifier r.assets.size
        else (r.asset j).dependencies := by
    rw [Registry.dependencies_grow _ _ _ _ _ _ _ hi, if_neg (Nat.ne_of_lt hj)]
  have hspecifiers (j : Nat) (hj : j < r.assets.size) :
      ((r.grow i specifier target source specifiers).asset j).specifiers =
        (r.asset j).specifiers := by
    rw [Registry.specifiers_grow, if_neg (Nat.ne_of_lt hj)]
  obtain ⟨hsuspended, hfinished⟩ := h.record hn hlt (fun j hj => (hlt j hj).trans hi) hi
    hspecifiers hdependencies
  refine ⟨?_, ?_⟩
  · intro f hf
    rcases List.mem_cons.mp hf with rfl | hf
    · rw [Registry.dependencies_grow _ _ _ _ _ _ _ hi, if_neg (Nat.ne_of_gt hi), if_pos rfl,
        List.take_zero]
      rfl
    · exact hsuspended f hf
  · intro j hj hmem
    rw [Registry.size_grow] at hj
    have hne : j ≠ r.assets.size := fun he => hmem (he ▸ List.mem_cons_self)
    exact hfinished j (by omega)
      (fun he => hmem (he ▸ List.mem_cons_of_mem _ List.mem_cons_self))
      fun hv => hmem (List.mem_cons_of_mem _ (List.mem_cons_of_mem _ hv))

end Mapped

theorem get?_of_not_linked {r : Registry} {i : Nat} {specifier : String}
    (hl : r.isLinked i specifier = false) : (r.asset i).dependencies.get? specifier = none := by
  rw [Registry.isLinked_eq] at hl
  exact Option.not_isSome_iff_eq_none.mp (by rw [hl]; exact Bool.false_ne_true)

theorem Invariant.step (h : Invariant host entry s) (hst : Step host s t) :
    Invariant host entry t := by
  obtain ⟨registered, stacked, mapped⟩ := h
  cases hst with
  | leave i next rest hs hn =>
    rw [hs] at stacked mapped
    exact ⟨registered, stacked.leave, mapped.leave hn⟩
  | skip i next rest specifier hs hn hl =>
    rw [hs] at stacked mapped
    exact ⟨registered, stacked.mono rfl (Nat.le_refl _) fun _ _ he => he, mapped.skip hn hl⟩
  | revisit i next rest specifier target j hs hn hl hr hj =>
    rw [hs] at stacked mapped
    have hi := stacked.index_lt rfl
    have hnew := get?_of_not_linked hl
    refine ⟨registered.link hi hnew hr hj, ?_,
      mapped.revisit hn (fun _ hk => stacked.lt_index hk) hi j⟩
    refine stacked.mono rfl (Nat.le_of_eq (s.registry.size_link i specifier j).symm) ?_
    intro k m he
    exact (s.registry.edge_link hi j k m hnew).mpr (.inl he)
  | descend i next rest specifier target source specifiers hs hn hl hr hj hsource hspecifiers =>
    rw [hs] at stacked mapped
    have hi := stacked.index_lt rfl
    have hnew := get?_of_not_linked hl
    refine ⟨registered.grow hi hnew hr hj hsource hspecifiers, ?_,
      mapped.descend hn (fun _ hk => stacked.lt_index hk) hi target source specifiers⟩
    refine stacked.descend rfl (by simp) ?_
    intro k m
    exact s.registry.edge_grow hi target source specifiers k m hnew

section Initial

variable {path : Path} {source : String} {specifiers : List String}

theorem asset_initial (path : Path) (source : String) (specifiers : List String) :
    (initial path source specifiers).registry.asset 0 = ⟨0, path, source, specifiers, {}⟩ := by
  have hsize : 0 < (({} : Registry).push (({} : Registry).next path source)).assets.size := by simp
  rw [initial, Registry.setSpecifiers, Registry.asset_modify, if_pos ⟨rfl, hsize⟩,
    Registry.asset_push]
  rfl

theorem size_initial (path : Path) (source : String) (specifiers : List String) :
    (initial path source specifiers).registry.assets.size = 1 := by
  rw [initial, Registry.size_setSpecifiers, Registry.size_push]
  rfl

theorem Invariant.start (h : Starts host entry path source specifiers) :
    Invariant host entry (initial path source specifiers) := by
  have ha := asset_initial path source specifiers
  have hsize := size_initial path source specifiers
  have hzero {i : Nat} (hi : i < (initial path source specifiers).registry.assets.size) :
      i = 0 := by omega
  refine ⟨⟨?_, by omega, by rw [ha]; exact h.resolved, ?_, ?_, ?_, ?_⟩, ⟨rfl, ?_, ?_, ?_⟩, ?_, ?_⟩
  · exact (Registry.wellFormed_empty.push path source rfl).setSpecifiers 0 specifiers
  · intro i hi
    rw [hzero hi, ha]
    exact h.loaded
  · intro i hi
    rw [hzero hi, ha]
    exact h.extracted
  · intro i hi specifier j hj
    rw [hzero hi, ha] at hj
    cases hj
  · intro j hj hne
    exact absurd (hzero hj) hne
  · intro i hi
    rw [List.mem_singleton.mp hi, hsize]
    exact Nat.one_pos
  · exact List.pairwise_singleton _ 0
  · exact List.isChain_singleton 0
  · intro f hf
    rw [List.mem_singleton.mp hf, ha]
    rfl
  · intro i hi hmem
    exact absurd (hzero hi ▸ List.mem_singleton_self 0) hmem

end Initial

/-- The invariant holds in every state that discovery comes through. -/
theorem Reached.invariant (h : Reached host entry t) : Invariant host entry t :=
  h.preserves (fun _ _ _ hs => .start hs) fun _ _ hinv hst => hinv.step hst

end Discovery

end ModuleBundler
