import Mathlib.Algebra.BigOperators.Fin
import Mathlib.Algebra.Order.BigOperators.Group.Finset
import Mathlib.Data.Set.Finite.Basic
import ModuleBundler.Proofs.Discovery.Reachability

namespace ModuleBundler.Discovery

variable {ε : Type} {host : Host (Except ε)} {entry : String} {s t : State} {n : Nat}

/-- The steps that the assets cost from when they are found until they are left. -/
def work (r : Registry) : Nat :=
  ∑ i ∈ Finset.range r.assets.size, (1 + (r.asset i).specifiers.length)

/-- The steps that the assets on the stack still cost. -/
def remaining (r : Registry) (stack : List Frame) : Nat :=
  (stack.map fun f => 1 + ((r.asset f.index).specifiers.length - f.next)).sum

theorem remaining_cons (r : Registry) (i next : Nat) (rest : List Frame) :
    remaining r (⟨i, next⟩ :: rest) =
      1 + ((r.asset i).specifiers.length - next) + remaining r rest := rfl

theorem remaining_congr {r r' : Registry} {stack : List Frame}
    (h : ∀ i ∈ visiting stack, (r'.asset i).specifiers = (r.asset i).specifiers) :
    remaining r' stack = remaining r stack := by
  unfold remaining
  congr 1
  refine List.map_congr_left fun f hf => ?_
  rw [h f.index (List.mem_map_of_mem hf)]

theorem work_link (r : Registry) (i : Nat) (specifier : String) (target : Nat) :
    work (r.link i specifier target) = work r := by
  simp [work]

theorem work_grow (r : Registry) (i : Nat) (specifier : String) (target : Path) (source : String)
    (specifiers : List String) :
    work (r.grow i specifier target source specifiers) = work r + (1 + specifiers.length) := by
  rw [work, Registry.size_grow, Finset.sum_range_succ, Registry.specifiers_grow, if_pos rfl, work]
  congr 1
  refine Finset.sum_congr rfl fun j hj => ?_
  rw [Registry.specifiers_grow, if_neg (Nat.ne_of_lt (Finset.mem_range.mp hj))]

/-- A step takes one off what is left to do, apart from what it finds. -/
theorem Step.remaining_add_work (h : Step host s t) (hinv : Invariant host entry s) :
    remaining s.registry s.stack + work t.registry =
      remaining t.registry t.stack + work s.registry + 1 := by
  have stacked := hinv.stacked
  cases h with
  | leave i next rest hs hn =>
    have hlength := List.getElem?_eq_none_iff.mp hn
    change remaining s.registry s.stack + work s.registry =
      remaining s.registry rest + work s.registry + 1
    rw [hs, remaining_cons]
    omega
  | skip i next rest specifier hs hn hl =>
    have hlength := (List.getElem?_eq_some_iff.mp hn).1
    change remaining s.registry s.stack + work s.registry =
      remaining s.registry (⟨i, next + 1⟩ :: rest) + work s.registry + 1
    rw [hs, remaining_cons, remaining_cons]
    omega
  | revisit i next rest specifier target j hs hn hl hr hj =>
    have hlength := (List.getElem?_eq_some_iff.mp hn).1
    have hrest : remaining (s.registry.link i specifier j) rest = remaining s.registry rest :=
      remaining_congr fun k _ => Registry.specifiers_link s.registry i k specifier j
    rw [hs, remaining_cons, remaining_cons, work_link, hrest, Registry.specifiers_link]
    omega
  | descend i next rest specifier target source specifiers hs hn hl hr hj hsource hspecifiers =>
    have hlength := (List.getElem?_eq_some_iff.mp hn).1
    have old (k : Nat) (hk : k ∈ visiting s.stack) :
        ((s.registry.grow i specifier target source specifiers).asset k).specifiers =
          (s.registry.asset k).specifiers := by
      rw [Registry.specifiers_grow, if_neg (Nat.ne_of_lt (stacked.lt_size k hk))]
    rw [hs] at old
    have hrest := remaining_congr fun k hk => old k (List.mem_cons_of_mem i hk)
    have htop := old i List.mem_cons_self
    rw [hs, remaining_cons, remaining_cons, remaining_cons, work_grow, hrest, htop,
      Registry.specifiers_grow, if_pos rfl]
    omega

theorem Reaches.remaining_add_work (h : Reaches host n s t) (hinv : Invariant host entry s) :
    remaining s.registry s.stack + work t.registry =
      remaining t.registry t.stack + work s.registry + n := by
  induction h with
  | refl => rfl
  | head hst _ ih =>
    have hstep := hst.remaining_add_work hinv
    have hrest := ih (hinv.step hst)
    omega

/-- So many steps were taken as the assets found have cost so far. -/
theorem Reaches.add_remaining {path : Path} {source : String} {specifiers : List String}
    (hs : Starts host entry path source specifiers)
    (h : Reaches host n (initial path source specifiers) t) :
    n + remaining t.registry t.stack = work t.registry := by
  have hbalance := h.remaining_add_work (.start hs)
  have hwork : work (initial path source specifiers).registry = 1 + specifiers.length := by
    rw [work, size_initial, Finset.sum_range_one, asset_initial]
  have hleft : remaining (initial path source specifiers).registry
      (initial path source specifiers).stack = 1 + specifiers.length := by
    change remaining (initial path source specifiers).registry [⟨0, 0⟩] = _
    rw [remaining_cons, asset_initial]
    rfl
  omega

/-- What the asset of a path costs. -/
def cost (host : Host (Except ε)) (p : Path) : Nat :=
  match host.load p with
  | .ok source =>
    match host.extract source p with
    | .ok specifiers => 1 + specifiers.length
    | .error _ => 0
  | .error _ => 0

/-- The assets cost no more than all that the entry leads to. -/
theorem Invariant.work_le (h : Invariant host entry s)
    (hfinite : {p | Reachable host entry p}.Finite) :
    work s.registry ≤ ∑ p ∈ hfinite.toFinset, cost host p := by
  have hcost (i : Nat) (hi : i ∈ Finset.range s.registry.assets.size) :
      1 + (s.registry.asset i).specifiers.length = cost host (s.registry.asset i).path := by
    have hlt := Finset.mem_range.mp hi
    simp only [cost, h.registered.loaded i hlt, h.registered.extracted i hlt]
  have hinj : Set.InjOn (fun i => (s.registry.asset i).path)
      (Finset.range s.registry.assets.size) := by
    intro i hi j hj
    exact h.registered.wellFormed.path_inj i j (Finset.mem_range.mp hi) (Finset.mem_range.mp hj)
  calc work s.registry
      = ∑ i ∈ Finset.range s.registry.assets.size, cost host (s.registry.asset i).path :=
        Finset.sum_congr rfl hcost
    _ = ∑ p ∈ (Finset.range s.registry.assets.size).image fun i => (s.registry.asset i).path,
          cost host p := (Finset.sum_image hinj).symm
    _ ≤ ∑ p ∈ hfinite.toFinset, cost host p := by
        refine Finset.sum_le_sum_of_subset fun p hp => ?_
        obtain ⟨i, hi, rfl⟩ := Finset.mem_image.mp hp
        exact hfinite.mem_toFinset.mpr (h.reachable (Finset.mem_range.mp hi))

theorem work_eq (r : Registry) :
    work r = r.assets.size + (r.assets.toList.map (·.specifiers.length)).sum := by
  have hsum : (r.assets.toList.map (·.specifiers.length)).sum =
      ∑ i ∈ Finset.range r.assets.size, (r.asset i).specifiers.length := by
    rw [← Array.length_toList, Finset.sum_range, ← Fin.sum_univ_fun_getElem]
    refine Finset.sum_congr rfl fun i _ => ?_
    rw [Registry.asset_eq_of_getElem? (r := r) (i := i) (a := r.assets.toList[i]) (by simp)]
    rfl
  rw [hsum, work, Finset.sum_add_distrib, Finset.sum_const, Finset.card_range, smul_eq_mul, mul_one]

/-- The steps of a finished discovery: one for each asset, to leave it, and one for each specifier,
to look at it. -/
def steps (d : Discovery) : Nat :=
  d.graph.assets.size + (d.graph.assets.toList.map (·.specifiers.length)).sum

/-- Where the entry leads to finitely many paths, discovery ends: it fails, or it finishes after
exactly its steps. -/
theorem discover_ends (hfinite : {p | Reachable host entry p}.Finite) :
    (∃ e least, ∀ fuel ≥ least, discover host fuel entry = .error e) ∨
    ∃ d s t, start host entry = .ok (0, s) ∧ Reaches host d.steps s t ∧ t.stack = [] ∧
      d = t.finish 0 ∧
      ∀ fuel, discover host fuel entry = .ok (if fuel ≤ d.steps then none else some d) := by
  rcases start_cases host entry with ⟨path, source, specifiers, hs, hstart⟩ | ⟨e, hf, hstart⟩
  · have hbound (n : Nat) (t : State) (h : Reaches host n (initial path source specifiers) t) :
        n ≤ ∑ p ∈ hfinite.toFinset, cost host p := by
      have hinv := Reached.invariant ⟨path, source, specifiers, n, hs, h⟩
      have hle := hinv.work_le hfinite
      have hsteps := h.add_remaining hs
      omega
    rcases run_cases host 0 (∑ p ∈ hfinite.toFinset, cost host p + 1)
        (initial path source specifiers) with
      ⟨n, t, -, hr, ht, -⟩ | ⟨n, t, e, -, hr, hf, -⟩ | ⟨t, hr, -⟩
    · have hsteps : (t.finish 0).steps = n := by
        have hwork := hr.add_remaining hs
        rw [ht] at hwork
        rw [steps, State.finish, ← work_eq, ← hwork]
        rfl
      refine .inr ⟨t.finish 0, _, t, hstart, hsteps ▸ hr, ht, rfl, ?_⟩
      intro fuel
      rw [discover_of_starts hs, hsteps]
      split_ifs with hle
      · exact run_of_reaches_le hr hle
      · exact run_of_ended hr ht (Nat.lt_of_not_le hle)
    · refine .inl ⟨e, n + 1, ?_⟩
      intro fuel hle
      rw [discover_of_starts hs]
      exact run_of_failed hr hf hle
    · have hle := hbound _ t hr
      omega
  · refine .inl ⟨e, 0, ?_⟩
    intro fuel _
    rw [discover, hstart]
    rfl

end ModuleBundler.Discovery
