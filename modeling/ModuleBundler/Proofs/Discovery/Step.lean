import ModuleBundler.Discovery.Basic
import ModuleBundler.Proofs.Registry

namespace ModuleBundler

namespace Registry

/-- The registry after a specifier of asset `i` has led to a new module. -/
def grow (r : Registry) (i : Nat) (specifier : String) (target : Path) (source : String)
    (specifiers : List String) : Registry :=
  ((r.push (r.next target source)).link i specifier r.assets.size).setSpecifiers r.assets.size
    specifiers

section

variable (r : Registry) (i j : Nat) (specifier : String) (target : Path) (source : String)
  (specifiers : List String)

@[simp] theorem size_grow :
    (r.grow i specifier target source specifiers).assets.size = r.assets.size + 1 := by
  simp [grow]

theorem index_grow : ((r.grow i specifier target source specifiers).asset j).index =
    if j = r.assets.size then r.assets.size else (r.asset j).index := by
  rw [grow, index_setSpecifiers, index_link, asset_push]
  split_ifs <;> rfl

theorem path_grow : ((r.grow i specifier target source specifiers).asset j).path =
    if j = r.assets.size then target else (r.asset j).path := by
  rw [grow, path_setSpecifiers, path_link, asset_push]
  split_ifs <;> rfl

theorem source_grow : ((r.grow i specifier target source specifiers).asset j).source =
    if j = r.assets.size then source else (r.asset j).source := by
  rw [grow, source_setSpecifiers, source_link, asset_push]
  split_ifs <;> rfl

theorem specifiers_grow : ((r.grow i specifier target source specifiers).asset j).specifiers =
    if j = r.assets.size then specifiers else (r.asset j).specifiers := by
  rw [grow, specifiers_setSpecifiers, specifiers_link, asset_push, size_link, size_push]
  split_ifs <;> first | rfl | omega

theorem dependencies_grow (hi : i < r.assets.size) :
    ((r.grow i specifier target source specifiers).asset j).dependencies =
      if j = i then (r.asset i).dependencies.insert specifier r.assets.size
      else if j = r.assets.size then {}
      else (r.asset j).dependencies := by
  rw [grow, dependencies_setSpecifiers, dependencies_link, asset_push, size_push]
  by_cases hj : j = i
  · rw [if_pos ⟨hj, by omega⟩, if_neg (by omega), if_pos hj, hj]
  · rw [if_neg fun h => hj h.1, if_neg hj]
    split_ifs <;> rfl

theorem get?_grow (hi : i < r.assets.size) (other : String) :
    ((r.grow i specifier target source specifiers).asset j).dependencies.get? other =
      if j = i ∧ other = specifier then some r.assets.size
      else (r.asset j).dependencies.get? other := by
  rw [grow, dependencies_setSpecifiers, get?_link _ _ _ _ _ (by simp; omega), asset_push]
  by_cases hj : j = r.assets.size
  · have hnone : r.assets[j]? = none := by simp [hj]
    rw [if_pos hj, asset_eq_getD, hnone]
    rfl
  · rw [if_neg hj]

theorem WellFormed.grow {r : Registry} (hr : r.WellFormed) (h : r.lookup target = none) :
    (r.grow i specifier target source specifiers).WellFormed :=
  ((hr.push target source h).link i specifier _).setSpecifiers _ specifiers

theorem Extends.grow : r.Extends (r.grow i specifier target source specifiers) :=
  ((Extends.push _).trans (Extends.link i specifier _)).setSpecifiers _ (by simp) specifiers

end

def cycleAlong (r : Registry) (cwd : Path) (walk : List Nat) : Cycle :=
  ⟨walk.map fun i => (r.asset i).path.stable cwd⟩

end Registry

namespace Discovery

variable {ε : Type} {host : Host (Except ε)} {s t u : State} {e : ε} {n : Nat}

/-- What a step can do while a module is on the stack. -/
inductive Step (host : Host (Except ε)) (s : State) : State → Prop where
  | leave (i next : Nat) (rest : List Frame) (hs : s.stack = ⟨i, next⟩ :: rest)
      (hn : (s.registry.asset i).specifiers[next]? = none) :
      Step host s ⟨s.registry, rest, s.active.pop, s.cycles⟩
  | skip (i next : Nat) (rest : List Frame) (specifier : String)
      (hs : s.stack = ⟨i, next⟩ :: rest)
      (hn : (s.registry.asset i).specifiers[next]? = some specifier)
      (hl : s.registry.isLinked i specifier = true) :
      Step host s ⟨s.registry, ⟨i, next + 1⟩ :: rest, s.active, s.cycles⟩
  | revisit (i next : Nat) (rest : List Frame) (specifier : String) (target : Path) (j : Nat)
      (hs : s.stack = ⟨i, next⟩ :: rest)
      (hn : (s.registry.asset i).specifiers[next]? = some specifier)
      (hl : s.registry.isLinked i specifier = false)
      (hr : host.resolve specifier (s.registry.asset i).path = .ok target)
      (hj : s.registry.lookup target = some j) :
      Step host s ⟨s.registry.link i specifier j, ⟨i, next + 1⟩ :: rest, s.active,
        s.cycles ++ closedBy host.cwd s j⟩
  | descend (i next : Nat) (rest : List Frame) (specifier : String) (target : Path)
      (source : String) (specifiers : List String)
      (hs : s.stack = ⟨i, next⟩ :: rest)
      (hn : (s.registry.asset i).specifiers[next]? = some specifier)
      (hl : s.registry.isLinked i specifier = false)
      (hr : host.resolve specifier (s.registry.asset i).path = .ok target)
      (hj : s.registry.lookup target = none)
      (hsource : host.load target = .ok source)
      (hspecifiers : host.extract source target = .ok specifiers) :
      Step host s ⟨s.registry.grow i specifier target source specifiers,
        ⟨s.registry.assets.size, 0⟩ :: ⟨i, next + 1⟩ :: rest,
        activate s.active s.registry.assets.size, s.cycles⟩

/-- Where a step can fail: at an unknown specifier, in the resolver, the store or the extractor. -/
inductive Fails (host : Host (Except ε)) (s : State) (e : ε) : Prop where
  | resolve (i next : Nat) (rest : List Frame) (specifier : String)
      (hs : s.stack = ⟨i, next⟩ :: rest)
      (hn : (s.registry.asset i).specifiers[next]? = some specifier)
      (hl : s.registry.isLinked i specifier = false)
      (hr : host.resolve specifier (s.registry.asset i).path = .error e)
  | load (i next : Nat) (rest : List Frame) (specifier : String) (target : Path)
      (hs : s.stack = ⟨i, next⟩ :: rest)
      (hn : (s.registry.asset i).specifiers[next]? = some specifier)
      (hl : s.registry.isLinked i specifier = false)
      (hr : host.resolve specifier (s.registry.asset i).path = .ok target)
      (hj : s.registry.lookup target = none) (hsource : host.load target = .error e)
  | extract (i next : Nat) (rest : List Frame) (specifier : String) (target : Path)
      (source : String) (hs : s.stack = ⟨i, next⟩ :: rest)
      (hn : (s.registry.asset i).specifiers[next]? = some specifier)
      (hl : s.registry.isLinked i specifier = false)
      (hr : host.resolve specifier (s.registry.asset i).path = .ok target)
      (hj : s.registry.lookup target = none) (hsource : host.load target = .ok source)
      (hspecifiers : host.extract source target = .error e)

theorem Step.stack_ne_nil (h : Step host s t) : s.stack ≠ [] := by
  cases h <;> simp [*]

theorem Fails.stack_ne_nil (h : Fails host s e) : s.stack ≠ [] := by
  cases h <;> simp [*]

/-- Entering the asset just registered for a target asks for the specifiers in its text. -/
theorem enter_next (host : Host (Except ε)) (s : State) (i : Nat) (stack : List Frame)
    (specifier : String) (target : Path) (source : String) :
    enter host ⟨(s.registry.push (s.registry.next target source)).link i specifier
        s.registry.assets.size, stack, s.active, s.cycles⟩ s.registry.assets.size =
      (host.extract source target).map fun specifiers =>
        ⟨s.registry.grow i specifier target source specifiers,
          ⟨s.registry.assets.size, 0⟩ :: stack, activate s.active s.registry.assets.size,
          s.cycles⟩ := by
  have hsource : (((s.registry.push (s.registry.next target source)).link i specifier
      s.registry.assets.size).asset s.registry.assets.size).source = source := by
    rw [Registry.source_link, Registry.asset_push, if_pos rfl]
    rfl
  have hpath : (((s.registry.push (s.registry.next target source)).link i specifier
      s.registry.assets.size).asset s.registry.assets.size).path = target := by
    rw [Registry.path_link, Registry.asset_push, if_pos rfl]
    rfl
  simp only [enter, hsource, hpath]
  cases host.extract source target <;> rfl

theorem follow_eq (i : Nat) (specifier : String) :
    follow host s i specifier =
      match host.resolve specifier (s.registry.asset i).path with
      | .error e => .error e
      | .ok target =>
        match s.registry.lookup target with
        | some j => .ok ⟨s.registry.link i specifier j, s.stack, s.active,
            s.cycles ++ closedBy host.cwd s j⟩
        | none =>
          match host.load target with
          | .error e => .error e
          | .ok source =>
            (host.extract source target).map fun specifiers =>
              ⟨s.registry.grow i specifier target source specifiers,
                ⟨s.registry.assets.size, 0⟩ :: s.stack,
                activate s.active s.registry.assets.size, s.cycles⟩ := by
  unfold follow
  cases hr : host.resolve specifier (s.registry.asset i).path with
  | error e => rfl
  | ok target =>
    cases hj : s.registry.lookup target with
    | some j =>
      have hc : closedBy host.cwd { s with registry := s.registry.link i specifier j } j =
          closedBy host.cwd s j := by
        simp [closedBy]
      simp [bind, Except.bind, Registry.getOrCreate_eq, hj, pure, Except.pure, Registration.index,
        hc]
    | none =>
      cases hsource : host.load target with
      | error e => simp [bind, Except.bind, Registry.getOrCreate_eq, hj, hsource]
      | ok source =>
        have he := enter_next host s i s.stack specifier target source
        simpa [bind, Except.bind, Registry.getOrCreate_eq, hj, hsource, pure, Except.pure,
          Registration.index, Registry.next] using he

theorem step_cons (i next : Nat) (rest : List Frame) (hs : s.stack = ⟨i, next⟩ :: rest) :
    step host s =
      match (s.registry.asset i).specifiers[next]? with
      | none => .ok ⟨s.registry, rest, s.active.pop, s.cycles⟩
      | some specifier =>
        if s.registry.isLinked i specifier then
          .ok ⟨s.registry, ⟨i, next + 1⟩ :: rest, s.active, s.cycles⟩
        else follow host ⟨s.registry, ⟨i, next + 1⟩ :: rest, s.active, s.cycles⟩ i specifier := by
  unfold step
  rw [hs]
  rfl

theorem Step.step_eq (h : Step host s t) : step host s = .ok t := by
  cases h with
  | leave i next rest hs hn => rw [step_cons i next rest hs, hn]
  | skip i next rest specifier hs hn hl => simp only [step_cons i next rest hs, hn, hl, if_true]
  | revisit i next rest specifier target j hs hn hl hr hj =>
    simp only [step_cons i next rest hs, hn, hl, Bool.false_eq_true, if_false, follow_eq, hr, hj]
    rfl
  | descend i next rest specifier target source specifiers hs hn hl hr hj hsource hspecifiers =>
    simp only [step_cons i next rest hs, hn, hl, Bool.false_eq_true, if_false, follow_eq, hr, hj,
      hsource, hspecifiers]
    rfl

theorem Fails.step_eq (h : Fails host s e) : step host s = .error e := by
  cases h with
  | resolve i next rest specifier hs hn hl hr =>
    simp only [step_cons i next rest hs, hn, hl, Bool.false_eq_true, if_false, follow_eq, hr]
  | load i next rest specifier target hs hn hl hr hj hsource =>
    simp only [step_cons i next rest hs, hn, hl, Bool.false_eq_true, if_false, follow_eq, hr, hj,
      hsource]
  | extract i next rest specifier target source hs hn hl hr hj hsource hspecifiers =>
    simp only [step_cons i next rest hs, hn, hl, Bool.false_eq_true, if_false, follow_eq, hr, hj,
      hsource, hspecifiers]
    rfl

/-- Every step is one of the four, or one of the three failures. -/
theorem step_cases (host : Host (Except ε)) (h : s.stack ≠ []) :
    (∃ t, Step host s t) ∨ (∃ e, Fails host s e) := by
  obtain ⟨⟨i, next⟩, rest, hs⟩ := List.exists_cons_of_ne_nil h
  cases hn : (s.registry.asset i).specifiers[next]? with
  | none => exact .inl ⟨_, .leave i next rest hs hn⟩
  | some specifier =>
    cases hl : s.registry.isLinked i specifier with
    | true => exact .inl ⟨_, .skip i next rest specifier hs hn hl⟩
    | false =>
      cases hr : host.resolve specifier (s.registry.asset i).path with
      | error e => exact .inr ⟨e, .resolve i next rest specifier hs hn hl hr⟩
      | ok target =>
        cases hj : s.registry.lookup target with
        | some j => exact .inl ⟨_, .revisit i next rest specifier target j hs hn hl hr hj⟩
        | none =>
          cases hsource : host.load target with
          | error e => exact .inr ⟨e, .load i next rest specifier target hs hn hl hr hj hsource⟩
          | ok source =>
            cases hspecifiers : host.extract source target with
            | error e =>
              exact .inr ⟨e,
                .extract i next rest specifier target source hs hn hl hr hj hsource hspecifiers⟩
            | ok specifiers =>
              exact .inl ⟨_, .descend i next rest specifier target source specifiers hs hn hl
                hr hj hsource hspecifiers⟩

theorem Step.of_step (h : s.stack ≠ []) (hs : step host s = .ok t) : Step host s t := by
  rcases step_cases host h with ⟨t', ht⟩ | ⟨e, he⟩
  · have heq := ht.step_eq
    rw [hs] at heq
    cases heq
    exact ht
  · have heq := he.step_eq
    rw [hs] at heq
    cases heq

/-- Coming back to an active module reports the way down from it; to another one, nothing. -/
theorem closedBy_cases (cwd : Path) (s : State) (j : Nat) :
    (j ∉ s.active.toList ∧ closedBy cwd s j = []) ∨
    ∃ before below, s.active.toList = before ++ j :: below ∧ j ∉ before ∧
      closedBy cwd s j = [s.registry.cycleAlong cwd (j :: below ++ [j])] := by
  have hidx : s.active.idxOf? j = s.active.toList.idxOf? j := by
    rw [← List.idxOf?_toArray, Array.toArray_toList]
  unfold closedBy
  rw [hidx]
  generalize s.active.toList = active
  cases hk : active.idxOf? j with
  | none => exact .inl ⟨List.idxOf?_eq_none_iff.mp hk, rfl⟩
  | some k =>
    obtain ⟨hlt, rfl, hfirst⟩ := List.idxOf?_eq_some_iff.mp hk
    have hdrop := List.drop_eq_getElem_cons hlt
    refine .inr ⟨active.take k, active.drop (k + 1), ?_, ?_, ?_⟩
    · rw [← hdrop]
      exact (List.take_append_drop k active).symm
    · intro hmem
      obtain ⟨m, hm, hget⟩ := List.mem_take_iff_getElem.mp hmem
      exact hfirst m (by omega) hget
    · simp only [hdrop]
      rfl

/-- The cycle that is closed depends on the active modules and on the names on the way only. -/
theorem closedBy_congr {cwd cwd' : Path} {j : Nat} (hactive : t.active = s.active)
    (h : ∀ k, k ∈ s.active.toList ∨ k = j →
      (t.registry.asset k).path.stable cwd' = (s.registry.asset k).path.stable cwd) :
    closedBy cwd' t j = closedBy cwd s j := by
  unfold closedBy
  rw [hactive]
  cases s.active.idxOf? j with
  | none => rfl
  | some start =>
    have hnames : (s.active.toList.drop start ++ [j]).map
          (fun k => (t.registry.asset k).path.stable cwd') =
        (s.active.toList.drop start ++ [j]).map
          fun k => (s.registry.asset k).path.stable cwd := by
      refine List.map_congr_left fun k hk => h k ?_
      exact (List.mem_append.mp hk).imp List.mem_of_mem_drop List.mem_singleton.mp
    simp only [hnames]

end Discovery

end ModuleBundler
