import ModuleBundler.Proofs.Discovery.Step

namespace ModuleBundler.Discovery

variable {ε : Type} {host : Host (Except ε)} {s t u : State} {e : ε} {n : Nat}

/-- That many steps lead from one state to the other. -/
inductive Reaches (host : Host (Except ε)) : Nat → State → State → Prop where
  | refl (s : State) : Reaches host 0 s s
  | head {n : Nat} {s t u : State} (h : Step host s t) (hr : Reaches host n t u) :
      Reaches host (n + 1) s u

theorem Reaches.single (h : Step host s t) : Reaches host 1 s t := .head h (.refl t)

theorem Reaches.trans {m : Nat} (h : Reaches host n s t) (h' : Reaches host m t u) :
    Reaches host (n + m) s u := by
  induction h with
  | refl => rwa [Nat.zero_add]
  | head hst _ ih =>
    rw [Nat.succ_add]
    exact .head hst (ih h')

theorem Reaches.take {m : Nat} (h : Reaches host n s u) (hm : m ≤ n) :
    ∃ t, Reaches host m s t := by
  induction h generalizing m with
  | refl s => exact ⟨s, Nat.le_zero.mp hm ▸ .refl s⟩
  | head hst _ ih =>
    cases m with
    | zero => exact ⟨_, .refl _⟩
    | succ m =>
      obtain ⟨t, ht⟩ := ih (Nat.le_of_succ_le_succ hm)
      exact ⟨t, .head hst ht⟩

/-- What every step keeps, every run of steps keeps. -/
theorem Reaches.preserves {P : State → Prop} (hP : ∀ s t, P s → Step host s t → P t)
    (h : Reaches host n s t) (hs : P s) : P t := by
  induction h with
  | refl => exact hs
  | head hst _ ih => exact ih (hP _ _ hs hst)

section Run

variable {entry fuel : Nat}

theorem run_add (h : Reaches host n s t) :
    run host entry (n + fuel) s = run host entry fuel t := by
  induction h with
  | refl => rw [Nat.zero_add]
  | head hst _ ih =>
    rw [Nat.succ_add, run, if_neg (by simpa using hst.stack_ne_nil), hst.step_eq]
    exact ih

theorem run_of_stack_nil (h : s.stack = []) :
    run host entry (fuel + 1) s = .ok (some (s.finish entry)) := by
  rw [run, if_pos (by simp [h])]
  rfl

theorem run_of_fails (h : Fails host s e) : run host entry (fuel + 1) s = .error e := by
  rw [run, if_neg (by simpa using h.stack_ne_nil), h.step_eq]
  rfl

theorem run_of_ended (hr : Reaches host n s t) (ht : t.stack = []) (hn : n < fuel) :
    run host entry fuel s = .ok (some (t.finish entry)) := by
  obtain ⟨k, rfl⟩ := Nat.exists_eq_add_of_lt hn
  rw [Nat.add_assoc, run_add hr, run_of_stack_nil ht]

theorem run_of_failed (hr : Reaches host n s t) (ht : Fails host t e) (hn : n < fuel) :
    run host entry fuel s = .error e := by
  obtain ⟨k, rfl⟩ := Nat.exists_eq_add_of_lt hn
  rw [Nat.add_assoc, run_add hr, run_of_fails ht]

theorem run_of_reaches_le (h : Reaches host n s t) (hle : fuel ≤ n) :
    run host entry fuel s = .ok none := by
  obtain ⟨u, hu⟩ := h.take hle
  rw [← Nat.add_zero fuel, run_add hu]
  rfl

/-- A run ends where the stack is empty, stops where a step fails, or uses up its fuel. -/
theorem run_cases (host : Host (Except ε)) (entry fuel : Nat) (s : State) :
    (∃ n t, n < fuel ∧ Reaches host n s t ∧ t.stack = [] ∧
      run host entry fuel s = .ok (some (t.finish entry))) ∨
    (∃ n t e, n < fuel ∧ Reaches host n s t ∧ Fails host t e ∧
      run host entry fuel s = .error e) ∨
    (∃ t, Reaches host fuel s t ∧ run host entry fuel s = .ok none) := by
  -- one unit of fuel is one step, from whatever state it leaves
  induction fuel generalizing s with
  | zero => exact .inr (.inr ⟨s, .refl s, rfl⟩)
  | succ fuel ih =>
    by_cases h : s.stack = []
    · exact .inl ⟨0, s, Nat.succ_pos _, .refl s, h, run_of_stack_nil h⟩
    · rcases step_cases host h with ⟨t, hst⟩ | ⟨e, hf⟩
      · have hrun : run host entry (fuel + 1) s = run host entry fuel t := by
          rw [Nat.add_comm]
          exact run_add (.single hst)
        rw [hrun]
        rcases ih t with ⟨n, u, hn, hr, hu⟩ | ⟨n, u, e, hn, hr, hu⟩ | ⟨u, hr, hu⟩
        · exact .inl ⟨n + 1, u, Nat.succ_lt_succ hn, .head hst hr, hu⟩
        · exact .inr (.inl ⟨n + 1, u, e, Nat.succ_lt_succ hn, .head hst hr, hu⟩)
        · exact .inr (.inr ⟨u, .head hst hr, hu⟩)
      · exact .inr (.inl ⟨0, s, e, Nat.succ_pos _, .refl s, hf, run_of_fails hf⟩)

/-- More fuel does not change what a run comes to. -/
theorem run_of_le {more : Nat} {o : Except ε Discovery} (h : run host entry fuel s = o.map some)
    (hle : fuel ≤ more) : run host entry more s = o.map some := by
  rcases run_cases host entry fuel s with
    ⟨n, t, hn, hr, ht, heq⟩ | ⟨n, t, e, hn, hr, ht, heq⟩ | ⟨t, -, heq⟩
  · rw [← h, heq, run_of_ended hr ht (Nat.lt_of_lt_of_le hn hle)]
  · rw [← h, heq, run_of_failed hr ht (Nat.lt_of_lt_of_le hn hle)]
  · rw [h] at heq
    cases o <;> cases heq

end Run

/-- The state with the entry on the stack and nothing visited. -/
def initial (path : Path) (source : String) (specifiers : List String) : State :=
  ⟨(({} : Registry).push (({} : Registry).next path source)).setSpecifiers 0 specifiers,
    [⟨0, 0⟩], #[0], []⟩

/-- The entry resolves, loads and has its specifiers read. -/
structure Starts (host : Host (Except ε)) (entry : String) (path : Path) (source : String)
    (specifiers : List String) : Prop where
  resolved : host.resolveEntry entry = .ok path
  loaded : host.load path = .ok source
  extracted : host.extract source path = .ok specifiers

/-- Where a discovery can fail before its first step. -/
inductive StartFails (host : Host (Except ε)) (entry : String) (e : ε) : Prop where
  | resolve (h : host.resolveEntry entry = .error e)
  | load (path : Path) (h : host.resolveEntry entry = .ok path)
      (hsource : host.load path = .error e)
  | extract (path : Path) (source : String) (h : host.resolveEntry entry = .ok path)
      (hsource : host.load path = .ok source) (hspecifiers : host.extract source path = .error e)

theorem enter_first (host : Host (Except ε)) (path : Path) (source : String) :
    enter host ⟨({} : Registry).push (({} : Registry).next path source), [], #[], []⟩ 0 =
      (host.extract source path).map (initial path source) := by
  have ha : activate #[] 0 = #[0] := by simp [activate]
  have hfirst : (({} : Registry).push (({} : Registry).next path source)).asset 0 =
      ({} : Registry).next path source := by
    rw [Registry.asset_push]
    rfl
  simp only [enter, hfirst, ha]
  change (do let specifiers ← host.extract source path; _) = _
  cases host.extract source path <;> rfl

theorem start_eq (host : Host (Except ε)) (entry : String) :
    start host entry =
      match host.resolveEntry entry with
      | .error e => .error e
      | .ok path =>
        match host.load path with
        | .error e => .error e
        | .ok source =>
          (host.extract source path).map fun specifiers => (0, initial path source specifiers) := by
  unfold start
  cases hp : host.resolveEntry entry with
  | error e => rfl
  | ok path =>
    have hj : ({} : Registry).lookup path = none := rfl
    cases hsource : host.load path with
    | error e => simp [bind, Except.bind, Registry.getOrCreate_eq, hj, hsource]
    | ok source =>
      have hi : (Registration.fresh (({} : Registry).next path source)).index = 0 := rfl
      simp only [bind, Except.bind, Registry.getOrCreate_eq, hj, hsource, pure, Except.pure, hi,
        enter_first host path source]
      cases host.extract source path <;> rfl

theorem start_cases (host : Host (Except ε)) (entry : String) :
    (∃ path source specifiers, Starts host entry path source specifiers ∧
      start host entry = .ok (0, initial path source specifiers)) ∨
    (∃ e, StartFails host entry e ∧ start host entry = .error e) := by
  rw [start_eq]
  cases hp : host.resolveEntry entry with
  | error e => exact .inr ⟨e, .resolve hp, rfl⟩
  | ok path =>
    cases hsource : host.load path with
    | error e => exact .inr ⟨e, .load path hp hsource, by simp only [hsource]⟩
    | ok source =>
      cases hspecifiers : host.extract source path with
      | error e =>
        exact .inr ⟨e, .extract path source hp hsource hspecifiers,
          by simp only [hsource, hspecifiers, Except.map]⟩
      | ok specifiers =>
        exact .inl ⟨path, source, specifiers, ⟨hp, hsource, hspecifiers⟩,
          by simp only [hsource, hspecifiers, Except.map]⟩

theorem discover_of_starts {fuel : Nat} {entry : String} {path : Path} {source : String}
    {specifiers : List String} (h : Starts host entry path source specifiers) :
    discover host fuel entry = run host 0 fuel (initial path source specifiers) := by
  rw [discover, start_eq, h.resolved]
  simp only [h.loaded, h.extracted]
  rfl

/-- Discovery from the entry comes through this state. -/
def Reached (host : Host (Except ε)) (entry : String) (t : State) : Prop :=
  ∃ path source specifiers n, Starts host entry path source specifiers ∧
    Reaches host n (initial path source specifiers) t

theorem Reached.step {entry : String} (h : Reached host entry s) (hst : Step host s t) :
    Reached host entry t := by
  obtain ⟨path, source, specifiers, n, hs, hr⟩ := h
  exact ⟨path, source, specifiers, n + 1, hs, hr.trans (.single hst)⟩

/-- What holds at the start and is kept by every step holds in every state that is reached. -/
theorem Reached.preserves {P : State → Prop} {entry : String}
    (hstart : ∀ path source specifiers, Starts host entry path source specifiers →
      P (initial path source specifiers))
    (hstep : ∀ s t, P s → Step host s t → P t) (h : Reached host entry t) : P t := by
  obtain ⟨path, source, specifiers, n, hs, hr⟩ := h
  exact hr.preserves hstep (hstart path source specifiers hs)

/-- Discovery ends in a state with nothing left to visit, fails at the start or in a state on the
way, or uses up its fuel. -/
theorem discover_cases (host : Host (Except ε)) (fuel : Nat) (entry : String) :
    (∃ t, Reached host entry t ∧ t.stack = [] ∧
      discover host fuel entry = .ok (some (t.finish 0))) ∨
    (∃ e, (StartFails host entry e ∨ ∃ t, Reached host entry t ∧ Fails host t e) ∧
      discover host fuel entry = .error e) ∨
    discover host fuel entry = .ok none := by
  rcases start_cases host entry with ⟨path, source, specifiers, hs, -⟩ | ⟨e, hf, heq⟩
  · rw [discover_of_starts hs]
    rcases run_cases host 0 fuel (initial path source specifiers) with
      ⟨n, t, -, hr, ht, heq'⟩ | ⟨n, t, e, -, hr, hf, heq'⟩ | ⟨t, -, heq'⟩
    · exact .inl ⟨t, ⟨path, source, specifiers, n, hs, hr⟩, ht, heq'⟩
    · exact .inr (.inl ⟨e, .inr ⟨t, ⟨path, source, specifiers, n, hs, hr⟩, hf⟩, heq'⟩)
    · exact .inr (.inr heq')
  · exact .inr (.inl ⟨e, .inl hf, by rw [discover, heq]; rfl⟩)

theorem exists_reached_of_discover {fuel : Nat} {entry : String} {d : Discovery}
    (h : discover host fuel entry = .ok (some d)) :
    ∃ t, Reached host entry t ∧ t.stack = [] ∧ d = t.finish 0 := by
  rcases discover_cases host fuel entry with ⟨t, hr, ht, heq⟩ | ⟨e, -, heq⟩ | heq
  · rw [h] at heq
    cases heq
    exact ⟨t, hr, ht, rfl⟩
  · rw [h] at heq
    cases heq
  · rw [h] at heq
    cases heq

theorem fails_of_discover {fuel : Nat} {entry : String}
    (h : discover host fuel entry = .error e) :
    StartFails host entry e ∨ ∃ t, Reached host entry t ∧ Fails host t e := by
  rcases discover_cases host fuel entry with ⟨t, hr, ht, heq⟩ | ⟨e', hf, heq⟩ | heq
  · rw [h] at heq
    cases heq
  · rw [h] at heq
    cases heq
    exact hf
  · rw [h] at heq
    cases heq

end ModuleBundler.Discovery
