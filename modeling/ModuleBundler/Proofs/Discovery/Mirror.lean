import ModuleBundler.Proofs.Discovery.Invariant

namespace ModuleBundler

/-- Two answers are values that correspond, or both are errors. -/
inductive Alike {ε ε' α β : Type} (R : α → β → Prop) : Except ε α → Except ε' β → Prop where
  | ok {a : α} {b : β} (h : R a b) : Alike R (.ok a) (.ok b)
  | error (e : ε) (e' : ε') : Alike R (.error e) (.error e')

namespace Alike

variable {ε ε' α β : Type} {R : α → β → Prop} {x : Except ε α} {y : Except ε' β}

theorem exists_ok (h : Alike R x y) {a : α} (hx : x = .ok a) : ∃ b, y = .ok b ∧ R a b := by
  subst hx
  cases h with
  | ok hab => exact ⟨_, rfl, hab⟩

theorem exists_error (h : Alike R x y) {e : ε} (hx : x = .error e) : ∃ e', y = .error e' := by
  subst hx
  cases h with
  | error _ e' => exact ⟨e', rfl⟩

theorem exists_some_iff {x : Except ε (Option α)} {y : Except ε' (Option β)}
    (h : Alike (Option.Rel R) x y) : (∃ a, x = .ok (some a)) ↔ ∃ b, y = .ok (some b) := by
  cases h with
  | ok hab => cases hab <;> simp
  | error => simp

theorem of_some {a : α} {b : β} (h : Alike (Option.Rel R) (.ok (some a) : Except ε (Option α))
    (.ok (some b) : Except ε' (Option β))) : R a b := by
  cases h with
  | ok hab =>
    cases hab with
    | some hab => exact hab

end Alike

variable {R : Path → Path → Prop}

/-- Two assets that differ in their paths only, and these correspond. -/
structure Asset.Mirrors (R : Path → Path → Prop) (a a' : Asset) : Prop where
  path : R a.path a'.path
  index_eq : a'.index = a.index
  source_eq : a'.source = a.source
  specifiers_eq : a'.specifiers = a.specifiers
  dependencies_eq : a'.dependencies = a.dependencies

namespace Registry

variable {r r' : Registry} {p p' : Path} {i : Nat}

/-- Two registries with corresponding assets. -/
structure Mirrors (R : Path → Path → Prop) (r r' : Registry) : Prop where
  size_eq : r'.assets.size = r.assets.size
  asset : ∀ i < r.assets.size, (r.asset i).Mirrors R (r'.asset i)

namespace Mirrors

theorem lookup_eq (h : r.Mirrors R r') (hr : r.WellFormed) (hr' : r'.WellFormed)
    (unique : ∀ q q', R q q' → (q = p ↔ q' = p')) : r'.lookup p' = r.lookup p := by
  refine Option.ext fun j => ?_
  rw [hr'.lookup_iff, hr.lookup_iff, h.size_eq]
  refine and_congr_right fun hj => ?_
  exact (unique _ _ (h.asset j hj).path).symm

theorem isLinked_eq (h : r.Mirrors R r') (hi : i < r.assets.size) (specifier : String) :
    r'.isLinked i specifier = r.isLinked i specifier := by
  rw [Registry.isLinked_eq, Registry.isLinked_eq, (h.asset i hi).dependencies_eq]

theorem link (h : r.Mirrors R r') (i : Nat) (specifier : String) (target : Nat) :
    (r.link i specifier target).Mirrors R (r'.link i specifier target) := by
  refine ⟨by rw [size_link, size_link, h.size_eq], ?_⟩
  intro j hj
  rw [size_link] at hj
  have hasset := h.asset j hj
  constructor
  · rw [path_link, path_link]
    exact hasset.path
  · rw [index_link, index_link, hasset.index_eq]
  · rw [source_link, source_link, hasset.source_eq]
  · rw [specifiers_link, specifiers_link, hasset.specifiers_eq]
  · rw [dependencies_link, dependencies_link, h.size_eq, hasset.dependencies_eq]

theorem grow (h : r.Mirrors R r') (hi : i < r.assets.size) (specifier : String) (hp : R p p')
    (source : String) (specifiers : List String) :
    (r.grow i specifier p source specifiers).Mirrors R
      (r'.grow i specifier p' source specifiers) := by
  refine ⟨by rw [size_grow, size_grow, h.size_eq], ?_⟩
  intro j hj
  rw [size_grow] at hj
  have hi' := h.size_eq.symm ▸ hi
  have hold (hne : j ≠ r.assets.size) := h.asset j (by omega)
  constructor
  · rw [path_grow, path_grow, h.size_eq]
    split_ifs with hnew
    · exact hp
    · exact (hold hnew).path
  · rw [index_grow, index_grow, h.size_eq]
    split_ifs with hnew
    · rfl
    · exact (hold hnew).index_eq
  · rw [source_grow, source_grow, h.size_eq]
    split_ifs with hnew
    · rfl
    · exact (hold hnew).source_eq
  · rw [specifiers_grow, specifiers_grow, h.size_eq]
    split_ifs with hnew
    · rfl
    · exact (hold hnew).specifiers_eq
  · rw [dependencies_grow _ _ _ _ _ _ _ hi', dependencies_grow _ _ _ _ _ _ _ hi, h.size_eq,
      (h.asset i hi).dependencies_eq]
    split_ifs with himporter hnew
    · rfl
    · rfl
    · exact (hold hnew).dependencies_eq

end Mirrors

end Registry

namespace Discovery

variable {ε ε' : Type} {host : Host (Except ε)} {host' : Host (Except ε')} {entry : String}
  {s s' t t' : State} {e : ε}

/-- Discovery comes to look at this specifier in the text of this module. -/
def Meets (host : Host (Except ε)) (entry : String) (importer : Path) (specifier : String) : Prop :=
  ∃ t i next rest, Reached host entry t ∧ t.stack = ⟨i, next⟩ :: rest ∧
    (t.registry.asset i).specifiers[next]? = some specifier ∧
      (t.registry.asset i).path = importer

/-- Two hosts that give corresponding answers about the entry, about corresponding paths, and about
every specifier that discovery with the first meets. -/
structure Mirrored (R : Path → Path → Prop) (host : Host (Except ε)) (host' : Host (Except ε'))
    (entry : String) : Prop where
  unique : ∀ p q p' q', R p p' → R q q' → (p = q ↔ p' = q')
  stable : ∀ p p', R p p' → p'.stable host'.cwd = p.stable host.cwd
  resolveEntry : Alike R (host.resolveEntry entry) (host'.resolveEntry entry)
  resolve : ∀ p p' specifier, R p p' → Meets host entry p specifier →
    Alike R (host.resolve specifier p) (host'.resolve specifier p')
  load : ∀ p p', R p p' → Alike Eq (host.load p) (host'.load p')
  extract : ∀ p p' source, R p p' → Alike Eq (host.extract source p) (host'.extract source p')

/-- Two states of the same shape over corresponding registries. -/
structure State.Mirrors (R : Path → Path → Prop) (s s' : State) : Prop where
  registry : s.registry.Mirrors R s'.registry
  stack_eq : s'.stack = s.stack
  active_eq : s'.active = s.active
  cycles_eq : s'.cycles = s.cycles

/-- The names of modules in a reported cycle do not tell the two discoveries apart. -/
theorem State.Mirrors.closedBy_eq (h : s.Mirrors R s') (hhosts : Mirrored R host host' entry)
    (hactive : ∀ i ∈ s.active, i < s.registry.assets.size) {j : Nat}
    (hj : j < s.registry.assets.size) : closedBy host'.cwd s' j = closedBy host.cwd s j := by
  refine closedBy_congr h.active_eq fun k hk => ?_
  refine hhosts.stable _ _ (h.registry.asset k ?_).path
  rcases hk with hk | rfl
  · exact hactive k (Array.mem_toList_iff.mp hk)
  · exact hj

theorem Invariant.lt_of_active (h : Invariant host entry s) :
    ∀ i ∈ s.active, i < s.registry.assets.size := by
  intro i hi
  refine h.stacked.lt_size i ?_
  rw [← Array.mem_toList_iff, h.stacked.active_eq, List.mem_reverse] at hi
  exact hi

theorem Mirrored.exists_load (h : Mirrored R host host' entry) {p p' : Path} {source : String}
    (hp : R p p') (hsource : host.load p = .ok source) : host'.load p' = .ok source := by
  obtain ⟨_, hsource', rfl⟩ := (h.load p p' hp).exists_ok hsource
  exact hsource'

theorem Mirrored.exists_extract (h : Mirrored R host host' entry) {p p' : Path} {source : String}
    {specifiers : List String} (hp : R p p')
    (hspecifiers : host.extract source p = .ok specifiers) :
    host'.extract source p' = .ok specifiers := by
  obtain ⟨_, hspecifiers', rfl⟩ := (h.extract p p' source hp).exists_ok hspecifiers
  exact hspecifiers'

section Step

variable (hhosts : Mirrored R host host' entry) (hreached : Reached host entry s)
  (hreached' : Reached host' entry s') (h : s.Mirrors R s')

include hreached h

/-- The modules on top are looked at in the same place. -/
theorem State.Mirrors.top {i next : Nat} {rest : List Frame} (hs : s.stack = ⟨i, next⟩ :: rest) :
    s'.stack = ⟨i, next⟩ :: rest ∧ i < s.registry.assets.size ∧
      (s'.registry.asset i).specifiers = (s.registry.asset i).specifiers := by
  have hi : i < s.registry.assets.size := by
    refine hreached.invariant.stacked.lt_size i ?_
    rw [hs]
    exact List.mem_cons_self
  exact ⟨h.stack_eq.trans hs, hi, (h.registry.asset i hi).specifiers_eq⟩

include hhosts

/-- A new specifier on top is new to the other discovery as well, and it gets the same answer. -/
theorem State.Mirrors.look {i next : Nat} {rest : List Frame} {specifier : String}
    (hs : s.stack = ⟨i, next⟩ :: rest)
    (hn : (s.registry.asset i).specifiers[next]? = some specifier)
    (hl : s.registry.isLinked i specifier = false) :
    (s'.registry.asset i).specifiers[next]? = some specifier ∧
      s'.registry.isLinked i specifier = false ∧
      Alike R (host.resolve specifier (s.registry.asset i).path)
        (host'.resolve specifier (s'.registry.asset i).path) := by
  obtain ⟨-, hi, hspecifiers⟩ := h.top hreached hs
  refine ⟨hspecifiers ▸ hn, (h.registry.isLinked_eq hi specifier).trans hl, ?_⟩
  exact hhosts.resolve _ _ specifier (h.registry.asset i hi).path
    ⟨s, i, next, rest, hreached, hs, hn, rfl⟩

include hreached'

theorem State.Mirrors.lookup_eq {p p' : Path} (hp : R p p') :
    s'.registry.lookup p' = s.registry.lookup p :=
  h.registry.lookup_eq hreached.invariant.registered.wellFormed
    hreached'.invariant.registered.wellFormed fun q q' hq => hhosts.unique q p q' p' hq hp

/-- Whatever step the one discovery takes, the other takes too. -/
theorem Step.mirrors (hst : Step host s t) : ∃ t', Step host' s' t' ∧ t.Mirrors R t' := by
  cases hst with
  | leave i next rest hs hn =>
    obtain ⟨hs', -, hspecifiers⟩ := h.top hreached hs
    refine ⟨_, .leave i next rest hs' (hspecifiers ▸ hn), h.registry, rfl, ?_, h.cycles_eq⟩
    rw [h.active_eq]
  | skip i next rest specifier hs hn hl =>
    obtain ⟨hs', hi, hspecifiers⟩ := h.top hreached hs
    have hl' := (h.registry.isLinked_eq hi specifier).trans hl
    exact ⟨_, .skip i next rest specifier hs' (hspecifiers ▸ hn) hl', h.registry, rfl, h.active_eq,
      h.cycles_eq⟩
  | revisit i next rest specifier target j hs hn hl hr hj =>
    obtain ⟨hs', -, -⟩ := h.top hreached hs
    obtain ⟨hn', hl', hresolve⟩ := h.look hhosts hreached hs hn hl
    obtain ⟨target', hr', hp⟩ := hresolve.exists_ok hr
    have hinv := hreached.invariant
    have hlt := ((hinv.registered.wellFormed.lookup_iff _ _).mp hj).1
    have hj' := (h.lookup_eq hhosts hreached hreached' hp).trans hj
    refine ⟨_, .revisit i next rest specifier target' j hs' hn' hl' hr' hj',
      h.registry.link i specifier j, rfl, h.active_eq, ?_⟩
    rw [h.cycles_eq, h.closedBy_eq hhosts hinv.lt_of_active hlt]
  | descend i next rest specifier target source specifiers hs hn hl hr hj hsource hspecifiers =>
    obtain ⟨hs', hi, -⟩ := h.top hreached hs
    obtain ⟨hn', hl', hresolve⟩ := h.look hhosts hreached hs hn hl
    obtain ⟨target', hr', hp⟩ := hresolve.exists_ok hr
    have hj' := (h.lookup_eq hhosts hreached hreached' hp).trans hj
    refine ⟨_, .descend i next rest specifier target' source specifiers hs' hn' hl' hr' hj'
      (hhosts.exists_load hp hsource) (hhosts.exists_extract hp hspecifiers),
      h.registry.grow hi specifier hp source specifiers, ?_, ?_, h.cycles_eq⟩
    · rw [h.registry.size_eq]
    · rw [h.active_eq, h.registry.size_eq]

/-- Where the one discovery fails, the other fails. -/
theorem Fails.mirrors (hf : Fails host s e) : ∃ e', Fails host' s' e' := by
  cases hf with
  | resolve i next rest specifier hs hn hl hr =>
    obtain ⟨hs', -, -⟩ := h.top hreached hs
    obtain ⟨hn', hl', hresolve⟩ := h.look hhosts hreached hs hn hl
    obtain ⟨e', hr'⟩ := hresolve.exists_error hr
    exact ⟨e', .resolve i next rest specifier hs' hn' hl' hr'⟩
  | load i next rest specifier target hs hn hl hr hj hsource =>
    obtain ⟨hs', -, -⟩ := h.top hreached hs
    obtain ⟨hn', hl', hresolve⟩ := h.look hhosts hreached hs hn hl
    obtain ⟨target', hr', hp⟩ := hresolve.exists_ok hr
    have hj' := (h.lookup_eq hhosts hreached hreached' hp).trans hj
    obtain ⟨e', hsource'⟩ := (hhosts.load _ _ hp).exists_error hsource
    exact ⟨e', .load i next rest specifier target' hs' hn' hl' hr' hj' hsource'⟩
  | extract i next rest specifier target source hs hn hl hr hj hsource hspecifiers =>
    obtain ⟨hs', -, -⟩ := h.top hreached hs
    obtain ⟨hn', hl', hresolve⟩ := h.look hhosts hreached hs hn hl
    obtain ⟨target', hr', hp⟩ := hresolve.exists_ok hr
    have hj' := (h.lookup_eq hhosts hreached hreached' hp).trans hj
    obtain ⟨e', hspecifiers'⟩ := (hhosts.extract _ _ source hp).exists_error hspecifiers
    exact ⟨e', .extract i next rest specifier target' source hs' hn' hl' hr' hj'
      (hhosts.exists_load hp hsource) hspecifiers'⟩

end Step

/-- Two discoveries of the same shape. -/
structure Mirrors (R : Path → Path → Prop) (d d' : Discovery) : Prop where
  entry_eq : d'.graph.entry = d.graph.entry
  cycles_eq : d'.cycles = d.cycles
  size_eq : d'.graph.assets.size = d.graph.assets.size
  asset : ∀ (i : Nat) (a a' : Asset), d.graph.assets[i]? = some a → d'.graph.assets[i]? = some a' →
    a.Mirrors R a'

theorem State.Mirrors.finish (h : s.Mirrors R s') (i : Nat) :
    (s.finish i).Mirrors R (s'.finish i) := by
  refine ⟨rfl, h.cycles_eq, h.registry.size_eq, ?_⟩
  intro j a a' ha ha'
  obtain ⟨hj, rfl⟩ := Registry.getElem?_eq_some_iff.mp ha
  obtain ⟨-, rfl⟩ := Registry.getElem?_eq_some_iff.mp ha'
  exact h.registry.asset j hj

theorem run_mirrors (hhosts : Mirrored R host host' entry) {i : Nat} (fuel : Nat)
    (hreached : Reached host entry s) (hreached' : Reached host' entry s') (h : s.Mirrors R s') :
    Alike (Option.Rel (Mirrors R)) (run host i fuel s) (run host' i fuel s') := by
  -- one unit of fuel is one step of both
  induction fuel generalizing s s' with
  | zero => exact .ok .none
  | succ fuel ih =>
    by_cases hs : s.stack = []
    · rw [run_of_stack_nil hs, run_of_stack_nil (h.stack_eq.trans hs)]
      exact .ok (.some (h.finish i))
    · rcases step_cases host hs with ⟨t, hst⟩ | ⟨e, hf⟩
      · obtain ⟨t', hst', ht⟩ := hst.mirrors hhosts hreached hreached' h
        rw [Nat.add_comm, run_add (.single hst), run_add (.single hst')]
        exact ih (hreached.step hst) (hreached'.step hst') ht
      · obtain ⟨e', hf'⟩ := hf.mirrors hhosts hreached hreached' h
        rw [run_of_fails hf, run_of_fails hf']
        exact .error e e'

theorem State.mirrors_initial {path path' : Path} (hp : R path path') (source : String)
    (specifiers : List String) :
    (initial path source specifiers).Mirrors R (initial path' source specifiers) := by
  refine ⟨⟨by rw [size_initial, size_initial], ?_⟩, rfl, rfl, rfl⟩
  intro i hi
  rw [size_initial, Nat.lt_one_iff] at hi
  rw [hi, asset_initial, asset_initial]
  exact ⟨hp, rfl, rfl, rfl, rfl⟩

theorem StartFails.discover_eq (h : StartFails host entry e) (fuel : Nat) :
    discover host fuel entry = .error e := by
  rw [discover, start_eq]
  cases h with
  | resolve h =>
    rw [h]
    rfl
  | load path h hsource =>
    rw [h]
    simp only [hsource]
    rfl
  | extract path source h hsource hspecifiers =>
    rw [h]
    simp only [hsource, hspecifiers]
    rfl

theorem StartFails.mirrors (hhosts : Mirrored R host host' entry) (h : StartFails host entry e) :
    ∃ e', StartFails host' entry e' := by
  cases h with
  | resolve h =>
    obtain ⟨e', h'⟩ := hhosts.resolveEntry.exists_error h
    exact ⟨e', .resolve h'⟩
  | load path h hsource =>
    obtain ⟨path', h', hp⟩ := hhosts.resolveEntry.exists_ok h
    obtain ⟨e', hsource'⟩ := (hhosts.load _ _ hp).exists_error hsource
    exact ⟨e', .load path' h' hsource'⟩
  | extract path source h hsource hspecifiers =>
    obtain ⟨path', h', hp⟩ := hhosts.resolveEntry.exists_ok h
    obtain ⟨e', hspecifiers'⟩ := (hhosts.extract _ _ source hp).exists_error hspecifiers
    exact ⟨e', .extract path' source h' (hhosts.exists_load hp hsource) hspecifiers'⟩

/-- Discovery with two hosts that give corresponding answers comes to the same, with any fuel. -/
theorem discover_mirrors (hhosts : Mirrored R host host' entry) (fuel : Nat) :
    Alike (Option.Rel (Mirrors R)) (discover host fuel entry) (discover host' fuel entry) := by
  rcases start_cases host entry with ⟨path, source, specifiers, hs, -⟩ | ⟨e, hf, -⟩
  · obtain ⟨path', hpath', hp⟩ := hhosts.resolveEntry.exists_ok hs.resolved
    have hs' : Starts host' entry path' source specifiers :=
      ⟨hpath', hhosts.exists_load hp hs.loaded, hhosts.exists_extract hp hs.extracted⟩
    rw [discover_of_starts hs, discover_of_starts hs']
    exact run_mirrors hhosts fuel ⟨path, source, specifiers, 0, hs, .refl _⟩
      ⟨path', source, specifiers, 0, hs', .refl _⟩ (State.mirrors_initial hp source specifiers)
  · obtain ⟨e', hf'⟩ := hf.mirrors hhosts
    rw [hf.discover_eq, hf'.discover_eq]
    exact .error e e'

end Discovery

end ModuleBundler
