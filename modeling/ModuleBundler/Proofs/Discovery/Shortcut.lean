import ModuleBundler.Extract.Lines
import ModuleBundler.Proofs.Discovery.Invariant
import ModuleBundler.Proofs.Host
import ModuleBundler.Store.Memory

namespace ModuleBundler

namespace DependencyMap

variable {specifier : String} {target : Nat}

theorem replaceValue_of_lookup {es : List (String × Nat)}
    (h : es.lookup specifier = some target) : replaceValue specifier target es = es := by
  induction es with
  | nil => rfl
  | cons e es ih =>
    obtain ⟨key, value⟩ := e
    rw [replaceValue]
    by_cases hkey : key = specifier
    · subst hkey
      rw [List.lookup_cons_self, Option.some.injEq] at h
      rw [if_pos rfl, h]
    · rw [List.lookup_cons, beq_eq_false_iff_ne.mpr (Ne.symm hkey)] at h
      rw [if_neg hkey, ih h]

/-- An entry that is there already is not changed. -/
theorem insert_of_get? {d : DependencyMap} (h : d.get? specifier = some target) :
    d.insert specifier target = d := by
  rw [insert, if_pos (by rw [contains_eq_isSome, h]; rfl), replaceValue_of_lookup h]

end DependencyMap

theorem Registry.link_of_get? {r : Registry} {i target : Nat} {specifier : String}
    (h : (r.asset i).dependencies.get? specifier = some target) :
    r.link i specifier target = r := by
  have hassets : (r.link i specifier target).assets = r.assets := by
    apply Array.ext_getElem?
    intro j
    rw [link, modify, Array.getElem?_modify]
    by_cases hj : i = j
    · subst hj
      rw [if_pos rfl]
      cases ha : r.assets[i]? with
      | none => rfl
      | some a =>
        rw [asset_eq_of_getElem? ha] at h
        rw [Option.map_some, DependencyMap.insert_of_get? h]
    · rw [if_neg hj]
  exact congrArg (fun assets => Registry.mk assets r.table) hassets

namespace Discovery

/-- One step that leaves a module without a next specifier, or looks at that one, recorded already
or not. -/
def stepThoroughly [Monad m] (host : Host m) (s : State) : m State :=
  match s.stack with
  | [] => pure s
  | ⟨i, next⟩ :: rest =>
    match (s.registry.asset i).specifiers[next]? with
    | none => pure { s with stack := rest, active := s.active.pop }
    | some specifier => follow host { s with stack := ⟨i, next + 1⟩ :: rest } i specifier

/-- A reported cycle, with the number of the module and the specifier in it that closed it. -/
structure Report where
  importer : Nat
  specifier : String
  cycle : Cycle
deriving DecidableEq

/-- The cycles that a step from `s` to `t` has reported, all for the specifier it looked at. -/
def reportsBetween (s t : State) : List Report :=
  match s.stack with
  | [] => []
  | ⟨i, next⟩ :: _ =>
    match (s.registry.asset i).specifiers[next]? with
    | none => []
    | some specifier => (t.cycles.drop s.cycles.length).map (Report.mk i specifier)

/-- Thorough steps until the stack is empty, with a log of the reports; `none` when `fuel` steps do
not suffice. -/
def runThoroughly [Monad m] (host : Host m) (entry : Nat) :
    Nat → State → List Report → m (Option (Discovery × List Report))
  | 0, _, _ => pure none
  | fuel + 1, s, log =>
    if s.stack.isEmpty then pure (some (s.finish entry, log))
    else do
      let t ← stepThoroughly host s
      runThoroughly host entry fuel t (log ++ reportsBetween s t)

/-- The modules reachable from the entry, by thorough steps, and the log of the reports; `none` when
`fuel` steps do not suffice. -/
def discoverThoroughly [Monad m] (host : Host m) (fuel : Nat) (entry : String) :
    m (Option (Discovery × List Report)) := do
  let (i, s) ← start host entry
  runThoroughly host i fuel s []

variable {ε : Type} {host : Host (Except ε)} {entry : String} {s t : State} {e : ε}
  {log more : List Report} {cwd : Path} {i j next : Nat} {rest : List Frame} {specifier : String}

theorem stepThoroughly_cons (hs : s.stack = ⟨i, next⟩ :: rest) :
    stepThoroughly host s =
      match (s.registry.asset i).specifiers[next]? with
      | none => .ok ⟨s.registry, rest, s.active.pop, s.cycles⟩
      | some specifier =>
        follow host ⟨s.registry, ⟨i, next + 1⟩ :: rest, s.active, s.cycles⟩ i specifier := by
  unfold stepThoroughly
  rw [hs]
  rfl

/-- The state with the cycles of all reports. -/
def State.retold (s : State) (log : List Report) : State := { s with cycles := log.map (·.cycle) }

/-- The reports for a specifier of module `i` that leads to module `j`. -/
def reportsFor (cwd : Path) (s : State) (i : Nat) (specifier : String) (j : Nat) : List Report :=
  (closedBy cwd s j).map (Report.mk i specifier)

theorem reportsFor_cases (cwd : Path) (s : State) (i : Nat) (specifier : String) (j : Nat) :
    reportsFor cwd s i specifier j = [] ∨
      ∃ cycle, reportsFor cwd s i specifier j = [⟨i, specifier, cycle⟩] := by
  unfold reportsFor
  rcases closedBy_cases cwd s j with ⟨-, h⟩ | ⟨before, below, -, -, h⟩
  · rw [h]
    exact .inl rfl
  · rw [h]
    exact .inr ⟨_, rfl⟩

theorem tag_of_mem_reportsFor {s : State} {report : Report}
    (h : report ∈ reportsFor cwd s i specifier j) :
    report.importer = i ∧ report.specifier = specifier := by
  obtain ⟨cycle, -, rfl⟩ := List.mem_map.mp h
  exact ⟨rfl, rfl⟩

/-- The cycle that a specifier leading to `j` closes at the end of a way, the end given first. -/
def closedOn (cwd : Path) (r : Registry) (way : List Nat) (j : Nat) : List Cycle :=
  closedBy cwd ⟨r, [], way.reverse.toArray, []⟩ j

theorem closedBy_eq_closedOn (h : Stacked s.registry s.active s.stack) (cwd : Path) (j : Nat) :
    closedBy cwd s j = closedOn cwd s.registry (visiting s.stack) j := by
  have hactive : s.active = (visiting s.stack).reverse.toArray :=
    Array.toList_inj.mp (by rw [h.active_eq])
  rw [closedOn, ← hactive]
  rfl

theorem closedOn_congr {r r' : Registry} {way : List Nat}
    (h : ∀ k ∈ j :: way, (r'.asset k).path = (r.asset k).path) :
    closedOn cwd r' way j = closedOn cwd r way j := by
  refine closedBy_congr rfl fun k hk => ?_
  rw [h k]
  rcases hk with hk | rfl
  · exact List.mem_cons_of_mem j (List.mem_reverse.mp hk)
  · exact List.mem_cons_self

theorem closedOn_of_not_mem {r : Registry} {way : List Nat} (h : j ∉ way) :
    closedOn cwd r way j = [] := by
  rcases closedBy_cases cwd ⟨r, [], way.reverse.toArray, []⟩ j with
    ⟨-, hcycles⟩ | ⟨before, below, hway, -⟩
  · exact hcycles
  · have hmem : j ∈ way.reverse := by
      change way.reverse = before ++ j :: below at hway
      rw [hway]
      exact List.mem_append_right before List.mem_cons_self
    exact absurd (List.mem_reverse.mp hmem) h

/-- The specifiers of module `i` that have been looked at: those before its position on the stack,
and all when it is not there. -/
def lookedAt (r : Registry) : List Frame → Nat → List String
  | [], i => (r.asset i).specifiers
  | f :: rest, i =>
    if f.index = i then (r.asset i).specifiers.take f.next else lookedAt r rest i

theorem lookedAt_of_not_mem {r : Registry} {stack : List Frame} (h : i ∉ visiting stack) :
    lookedAt r stack i = (r.asset i).specifiers := by
  induction stack with
  | nil => rfl
  | cons f rest ih =>
    obtain ⟨hne, hrest⟩ := not_or.mp (List.mem_cons.not.mp h)
    rw [lookedAt, if_neg (Ne.symm hne), ih hrest]

theorem lookedAt_congr {r r' : Registry} {stack : List Frame}
    (h : (r'.asset i).specifiers = (r.asset i).specifiers) :
    lookedAt r' stack i = lookedAt r stack i := by
  induction stack with
  | nil => exact h
  | cons f rest ih => rw [lookedAt, lookedAt, h, ih]

/-- What the cycles of discovery are beside the reports of thorough steps to the same state: each
report once. For all recorded specifiers of the modules on the stack the cycles they close there
have been reported. -/
structure Shadows (cwd : Path) (s : State) (log : List Report) : Prop where
  cycles_eq : s.cycles = log.eraseDups.map (·.cycle)
  linked : ∀ report ∈ log, s.registry.isLinked report.importer report.specifier = true
  unique : ∀ report ∈ log, ∀ other ∈ log, other.importer = report.importer →
    other.specifier = report.specifier → other = report
  told : ∀ i below, i :: below <:+ visiting s.stack → ∀ specifier j,
    (s.registry.asset i).dependencies.get? specifier = some j →
      ∀ cycle ∈ closedOn cwd s.registry (i :: below) j, ⟨i, specifier, cycle⟩ ∈ log
  counted : ∀ report, log.count report ≤
    (lookedAt s.registry s.stack report.importer).count report.specifier

/-- One more report for a specifier, when one more specifier has been looked at. -/
theorem count_append_le {r : Registry}
    (hn : (r.asset i).specifiers[next]? = some specifier)
    (hmore : more = [] ∨ ∃ cycle, more = [⟨i, specifier, cycle⟩])
    (h : ∀ report, log.count report ≤
      (lookedAt r (⟨i, next⟩ :: rest) report.importer).count report.specifier)
    (report : Report) :
    (log ++ more).count report ≤
      (lookedAt r (⟨i, next + 1⟩ :: rest) report.importer).count report.specifier := by
  have hold := h report
  rw [List.count_append]
  by_cases hi : i = report.importer
  · rw [lookedAt, if_pos hi, ← hi] at hold ⊢
    have hlooked : (r.asset i).specifiers.take (next + 1) =
        (r.asset i).specifiers.take next ++ [specifier] := by
      rw [List.take_add_one, hn]
      rfl
    have hone : more.count report ≤ [specifier].count report.specifier := by
      rcases hmore with rfl | ⟨cycle, rfl⟩
      · exact Nat.zero_le _
      · by_cases hreport : ⟨i, specifier, cycle⟩ = report
        · subst hreport
          simp
        · rw [List.count_singleton, if_neg (by simpa using hreport)]
          exact Nat.zero_le _
    rw [hlooked, List.count_append]
    exact Nat.add_le_add hold hone
  · have hnone : more.count report = 0 := by
      rw [List.count_eq_zero]
      rcases hmore with rfl | ⟨cycle, rfl⟩
      · exact List.not_mem_nil
      · intro hmem
        exact hi (congrArg Report.importer (List.mem_singleton.mp hmem)).symm
    rw [lookedAt, if_neg hi] at hold ⊢
    rw [hnone]
    exact hold

/-- The way of the module on top is the whole stack. -/
theorem Stacked.way_eq {r : Registry} {active : Array Nat} {below : List Nat}
    (h : Stacked r active (⟨i, next⟩ :: rest)) (hway : i :: below <:+ i :: visiting rest) :
    below = visiting rest := by
  rcases List.suffix_cons_iff.mp hway with hway | hsuffix
  · exact (List.cons.inj hway).2
  · exact absurd (h.lt_index (hsuffix.subset List.mem_cons_self)) (Nat.lt_irrefl i)

namespace Shadows

/-- The modules that were reported for are registered. -/
theorem importer_lt (h : Shadows cwd s log) {report : Report} (hr : report ∈ log) :
    report.importer < s.registry.assets.size := by
  by_contra hge
  have hlinked := h.linked report hr
  rw [Registry.isLinked, Array.getElem?_eq_none (Nat.le_of_not_lt hge)] at hlinked
  cases hlinked

theorem leave (h : Shadows cwd s log) (hinv : Invariant host entry s)
    (hs : s.stack = ⟨i, next⟩ :: rest) (hn : (s.registry.asset i).specifiers[next]? = none) :
    Shadows cwd ⟨s.registry, rest, s.active.pop, s.cycles⟩ log := by
  have hstacked := hinv.stacked
  obtain ⟨hcycles, hlinked, hunique, htold, hcounted⟩ := h
  rw [hs] at hstacked htold hcounted
  refine ⟨hcycles, hlinked, hunique, fun k below hway => htold k below ?_, fun report => ?_⟩
  · exact hway.trans (List.suffix_cons i _)
  · refine (hcounted report).trans (Nat.le_of_eq ?_)
    by_cases hi : i = report.importer
    · have hnot : i ∉ visiting rest := fun hmem => Nat.lt_irrefl i (hstacked.lt_index hmem)
      rw [lookedAt, if_pos hi, ← hi, lookedAt_of_not_mem hnot,
        List.take_of_length_le (List.getElem?_eq_none_iff.mp hn)]
    · rw [lookedAt, if_neg hi]

/-- Reports that repeat earlier ones change nothing. -/
theorem skip (h : Shadows cwd s log) (hs : s.stack = ⟨i, next⟩ :: rest)
    (hn : (s.registry.asset i).specifiers[next]? = some specifier)
    (hcases : more = [] ∨ ∃ cycle, more = [⟨i, specifier, cycle⟩])
    (hmore : ∀ report ∈ more, report ∈ log) :
    Shadows cwd ⟨s.registry, ⟨i, next + 1⟩ :: rest, s.active, s.cycles⟩ (log ++ more) := by
  have hmem (report : Report) (hr : report ∈ log ++ more) : report ∈ log :=
    (List.mem_append.mp hr).elim id (hmore report)
  obtain ⟨hcycles, hlinked, hunique, htold, hcounted⟩ := h
  rw [hs] at htold hcounted
  refine ⟨?_, fun report hr => hlinked report (hmem report hr),
    fun report hr other ho => hunique report (hmem report hr) other (hmem other ho), ?_,
    count_append_le hn hcases hcounted⟩
  · rw [hcycles]
    rcases hcases with rfl | ⟨cycle, rfl⟩
    · rw [List.append_nil]
    · rw [eraseDups_concat, if_pos (hmore _ (List.mem_singleton_self _))]
  · intro k below hway other m hm cycle hcycle
    exact List.mem_append_left more (htold k below hway other m hm cycle hcycle)

/-- What is not recorded has not been reported for. -/
theorem not_reported (h : Shadows cwd s log) (hl : s.registry.isLinked i specifier = false)
    {report : Report} (hr : report ∈ log) :
    ¬(report.importer = i ∧ report.specifier = specifier) := by
  rintro ⟨rfl, rfl⟩
  rw [h.linked report hr] at hl
  cases hl

theorem cycles_append (h : Shadows cwd s log) (hl : s.registry.isLinked i specifier = false)
    (j : Nat) : s.cycles ++ closedBy cwd s j =
      (log ++ reportsFor cwd s i specifier j).eraseDups.map (·.cycle) := by
  have hclosed : closedBy cwd s j = (reportsFor cwd s i specifier j).map (·.cycle) := by
    simp [reportsFor, Function.comp_def]
  rw [h.cycles_eq, hclosed]
  rcases reportsFor_cases cwd s i specifier j with hnone | ⟨cycle, hone⟩
  · rw [hnone, List.append_nil, List.map_nil, List.append_nil]
  · rw [hone, eraseDups_concat, if_neg (fun hr => h.not_reported hl hr ⟨rfl, rfl⟩),
      List.map_append]

theorem unique_append (h : Shadows cwd s log) (hl : s.registry.isLinked i specifier = false)
    (j : Nat) : ∀ report ∈ log ++ reportsFor cwd s i specifier j,
      ∀ other ∈ log ++ reportsFor cwd s i specifier j, other.importer = report.importer →
        other.specifier = report.specifier → other = report := by
  intro report hreport other hother himporter hspecifier
  rcases List.mem_append.mp hreport with hr | hr <;>
    rcases List.mem_append.mp hother with ho | ho
  · exact h.unique report hr other ho himporter hspecifier
  · obtain ⟨rfl, rfl⟩ := tag_of_mem_reportsFor ho
    exact absurd ⟨himporter.symm, hspecifier.symm⟩ (h.not_reported hl hr)
  · obtain ⟨rfl, rfl⟩ := tag_of_mem_reportsFor hr
    exact absurd ⟨himporter, hspecifier⟩ (h.not_reported hl ho)
  · rcases reportsFor_cases cwd s i specifier j with hnone | ⟨cycle, hone⟩
    · rw [hnone] at hr
      cases hr
    · rw [hone] at hr ho
      rw [List.mem_singleton.mp hr, List.mem_singleton.mp ho]

/-- A specifier that was not recorded is the first to be reported for. -/
theorem revisit (h : Shadows cwd s log) (hinv : Invariant host entry s)
    (hs : s.stack = ⟨i, next⟩ :: rest)
    (hn : (s.registry.asset i).specifiers[next]? = some specifier)
    (hl : s.registry.isLinked i specifier = false) (j : Nat) :
    Shadows cwd ⟨s.registry.link i specifier j, ⟨i, next + 1⟩ :: rest, s.active,
      s.cycles ++ closedBy cwd s j⟩ (log ++ reportsFor cwd s i specifier j) := by
  have hi := hinv.stacked.index_lt hs
  refine ⟨h.cycles_append hl j, fun report hreport => ?_, h.unique_append hl j, ?_,
    fun report => ?_⟩
  · rw [Registry.isLinked_eq, Registry.get?_link _ _ _ _ _ hi]
    rcases List.mem_append.mp hreport with hr | hr
    · rw [if_neg (h.not_reported hl hr), ← Registry.isLinked_eq]
      exact h.linked report hr
    · rw [if_pos (tag_of_mem_reportsFor hr)]
      rfl
  · have htop := closedBy_eq_closedOn hinv.stacked cwd j
    have hstacked := hinv.stacked
    have htold := h.told
    rw [hs] at htop hstacked htold
    intro k below hway other m hm cycle hcycle
    rw [Registry.get?_link _ _ _ _ _ hi] at hm
    have hpaths : closedOn cwd (s.registry.link i specifier j) (k :: below) m =
        closedOn cwd s.registry (k :: below) m :=
      closedOn_congr fun n _ => s.registry.path_link i n specifier j
    rw [hpaths] at hcycle
    split_ifs at hm with hnew
    · obtain ⟨rfl, rfl⟩ := hnew
      cases hm
      rw [hstacked.way_eq hway] at hcycle
      exact List.mem_append_right log (List.mem_map_of_mem (htop ▸ hcycle))
    · exact List.mem_append_left _ (htold k below hway other m hm cycle hcycle)
  · rw [lookedAt_congr (s.registry.specifiers_link i report.importer specifier j)]
    exact count_append_le hn (reportsFor_cases cwd s i specifier j) (hs ▸ h.counted) report

section Descend

variable {target : Path} {source : String} {specifiers : List String}

/-- A new module is on no way yet, and those on the stack close the same cycles as before. -/
theorem told_grow (h : Shadows cwd s log) (hinv : Invariant host entry s)
    (hs : s.stack = ⟨i, next⟩ :: rest) {k m : Nat} {below : List Nat} {other : String}
    {cycle : Cycle} (hway : k :: below <:+ s.registry.assets.size :: i :: visiting rest)
    (hm : ((s.registry.grow i specifier target source specifiers).asset k).dependencies.get? other =
      some m)
    (hcycle : cycle ∈ closedOn cwd (s.registry.grow i specifier target source specifiers)
      (k :: below) m) : ⟨k, other, cycle⟩ ∈ log := by
  have hi := hinv.stacked.index_lt hs
  have hnew_empty : k = s.registry.assets.size →
      (s.registry.asset k).dependencies.get? other = none := by
    rintro rfl
    rw [Registry.asset_eq_getD, Array.getElem?_eq_none (Nat.le_refl _)]
    rfl
  rw [Registry.get?_grow _ _ _ _ _ _ _ hi] at hm
  have hk : k ≠ s.registry.assets.size := by
    intro hk
    split_ifs at hm with hnew
    · omega
    · rw [hnew_empty hk] at hm
      cases hm
  have hold : k :: below <:+ visiting s.stack := by
    rw [hs]
    rcases List.suffix_cons_iff.mp hway with hway | hsuffix
    · exact absurd (List.cons.inj hway).1 hk
    · exact hsuffix
  have hlt (n : Nat) (hn : n ∈ k :: below) : n < s.registry.assets.size :=
    hinv.stacked.lt_size n (hold.subset hn)
  split_ifs at hm with hnew
  · cases hm
    rw [closedOn_of_not_mem fun hmem => Nat.lt_irrefl _ (hlt _ hmem)] at hcycle
    cases hcycle
  · have hm_lt := (hinv.registered.resolved k (hlt k List.mem_cons_self) other m hm).1
    have hpaths : closedOn cwd (s.registry.grow i specifier target source specifiers)
        (k :: below) m = closedOn cwd s.registry (k :: below) m := by
      refine closedOn_congr fun n hn => ?_
      rw [Registry.path_grow, if_neg]
      rcases List.mem_cons.mp hn with rfl | hn
      · exact Nat.ne_of_lt hm_lt
      · exact Nat.ne_of_lt (hlt n hn)
    rw [hpaths] at hcycle
    exact h.told k below hold other m hm cycle hcycle

theorem descend (h : Shadows cwd s log) (hinv : Invariant host entry s)
    (hs : s.stack = ⟨i, next⟩ :: rest)
    (hn : (s.registry.asset i).specifiers[next]? = some specifier) :
    Shadows cwd ⟨s.registry.grow i specifier target source specifiers,
      ⟨s.registry.assets.size, 0⟩ :: ⟨i, next + 1⟩ :: rest,
      activate s.active s.registry.assets.size, s.cycles⟩ log := by
  have hi := hinv.stacked.index_lt hs
  refine ⟨h.cycles_eq, fun report hr => ?_, h.unique, ?_, fun report => ?_⟩
  · rw [Registry.isLinked_eq, Registry.get?_grow _ _ _ _ _ _ _ hi]
    split_ifs
    · rfl
    · rw [← Registry.isLinked_eq]
      exact h.linked report hr
  · intro k below hway other m hm cycle hcycle
    exact h.told_grow hinv hs hway hm hcycle
  · by_cases hnew : s.registry.assets.size = report.importer
    · have hnone : log.count report = 0 := List.count_eq_zero.mpr fun hr =>
        absurd (h.importer_lt hr) (by omega)
      rw [hnone]
      exact Nat.zero_le _
    · have hspecifiers : ((s.registry.grow i specifier target source specifiers).asset
          report.importer).specifiers = (s.registry.asset report.importer).specifiers := by
        rw [Registry.specifiers_grow, if_neg (Ne.symm hnew)]
      have hcount : (log ++ []).count report ≤ _ :=
        count_append_le hn (.inl rfl) (hs ▸ h.counted) report
      rw [List.append_nil] at hcount
      rw [lookedAt, if_neg hnew, lookedAt_congr hspecifiers]
      exact hcount

end Descend

end Shadows

/-- Whatever step discovery takes, the thorough one takes it as well. -/
theorem Step.thoroughly (hst : Step host s t) (hinv : Invariant host entry s)
    (h : Shadows host.cwd s log) : ∃ more,
      stepThoroughly host (s.retold log) = .ok (t.retold (log ++ more)) ∧
      reportsBetween (s.retold log) (t.retold (log ++ more)) = more ∧
      Shadows host.cwd t (log ++ more) := by
  -- looking at a specifier that leads to a known module reports the cycles it closes
  have hreports {u : State} {i j next : Nat} {rest : List Frame} {specifier : String}
      (hs : s.stack = ⟨i, next⟩ :: rest)
      (hn : (s.registry.asset i).specifiers[next]? = some specifier) :
      reportsBetween (s.retold log) (u.retold (log ++ reportsFor host.cwd s i specifier j)) =
        reportsFor host.cwd s i specifier j := by
    simp [reportsBetween, State.retold, hs, hn, reportsFor, Function.comp_def]
  have hcycles (i j : Nat) (specifier : String) :
      (log ++ reportsFor host.cwd s i specifier j).map (·.cycle) =
        log.map (·.cycle) ++ closedBy host.cwd s j := by
    simp [reportsFor, Function.comp_def]
  cases hst with
  | leave i next rest hs hn =>
    refine ⟨[], ?_, ?_, ?_⟩
    · rw [stepThoroughly_cons (s := s.retold log) hs]
      simp only [State.retold, hn, List.append_nil]
    · simp [reportsBetween, State.retold, hs, hn]
    · rw [List.append_nil]
      exact h.leave hinv hs hn
  | skip i next rest specifier hs hn hl =>
    rw [Registry.isLinked_eq] at hl
    obtain ⟨j, hj⟩ := Option.isSome_iff_exists.mp hl
    have hi := hinv.stacked.index_lt hs
    obtain ⟨hlt, hr⟩ := hinv.registered.resolved i hi specifier j hj
    have hlookup := (hinv.registered.wellFormed.lookup_iff _ j).mpr ⟨hlt, rfl⟩
    refine ⟨reportsFor host.cwd s i specifier j, ?_, hreports hs hn,
      h.skip hs hn (reportsFor_cases host.cwd s i specifier j) ?_⟩
    · rw [stepThoroughly_cons (s := s.retold log) hs]
      simp only [State.retold, hn, follow_eq, hr, hlookup, hcycles, Registry.link_of_get? hj]
      rfl
    · -- the way below the module on top is what it was when this was recorded
      intro report hreport
      obtain ⟨cycle, hcycle, rfl⟩ := List.mem_map.mp hreport
      rw [closedBy_eq_closedOn hinv.stacked, hs] at hcycle
      exact h.told i (visiting rest) (by rw [hs]; exact List.suffix_rfl) specifier j hj cycle hcycle
  | revisit i next rest specifier target j hs hn hl hr hj =>
    refine ⟨reportsFor host.cwd s i specifier j, ?_, hreports hs hn, h.revisit hinv hs hn hl j⟩
    rw [stepThoroughly_cons (s := s.retold log) hs]
    simp only [State.retold, hn, follow_eq, hr, hj, hcycles]
    rfl
  | descend i next rest specifier target source specifiers hs hn hl hr hj hsource hspecifiers =>
    refine ⟨[], ?_, ?_, ?_⟩
    · rw [stepThoroughly_cons (s := s.retold log) hs]
      simp only [State.retold, hn, follow_eq, hr, hj, hsource, hspecifiers, List.append_nil]
      rfl
    · simp [reportsBetween, State.retold, hs, hn]
    · rw [List.append_nil]
      exact h.descend hinv hs hn

/-- Where discovery fails the thorough one fails, with the same error. -/
theorem Fails.thoroughly (hf : Fails host s e) :
    stepThoroughly host (s.retold log) = .error e := by
  cases hf with
  | resolve i next rest specifier hs hn hl hr =>
    rw [stepThoroughly_cons (s := s.retold log) hs]
    simp only [State.retold, hn, follow_eq, hr]
  | load i next rest specifier target hs hn hl hr hj hsource =>
    rw [stepThoroughly_cons (s := s.retold log) hs]
    simp only [State.retold, hn, follow_eq, hr, hj, hsource]
  | extract i next rest specifier target source hs hn hl hr hj hsource hspecifiers =>
    rw [stepThoroughly_cons (s := s.retold log) hs]
    simp only [State.retold, hn, follow_eq, hr, hj, hsource, hspecifiers]
    rfl

/-- What a discovery is beside a thorough one and the log of that. -/
structure Condenses (d d' : Discovery) (log : List Report) : Prop where
  graph_eq : d'.graph = d.graph
  thorough_cycles : d'.cycles = log.map (·.cycle)
  cycles_eq : d.cycles = log.eraseDups.map (·.cycle)
  distinct_eq : d'.cycles.eraseDups = d.cycles.eraseDups
  /-- What is reported for one specifier of one module is one cycle. -/
  unique : ∀ report ∈ log, ∀ other ∈ log, other.importer = report.importer →
    other.specifier = report.specifier → other = report
  /-- A report is not repeated more often than its specifier is written in the module. -/
  counted : ∀ report ∈ log, ∃ a, d.graph.assets[report.importer]? = some a ∧
    log.count report ≤ a.specifiers.count report.specifier

theorem Shadows.finish (h : Shadows cwd s log) (hs : s.stack = []) (i : Nat) :
    Condenses (s.finish i) ((s.retold log).finish i) log := by
  have hdistinct : (log.map (·.cycle)).eraseDups = s.cycles.eraseDups := by
    rw [h.cycles_eq, eraseDups_map_eraseDups]
  refine ⟨rfl, rfl, h.cycles_eq, hdistinct, h.unique, fun report hr => ?_⟩
  have hcount := h.counted report
  rw [hs] at hcount
  exact ⟨_, s.registry.getElem?_assets _ (h.importer_lt hr), hcount⟩

theorem shadows_initial (cwd path : Path) (source : String) (specifiers : List String) :
    Shadows cwd (initial path source specifiers) [] := by
  refine ⟨rfl, by simp, by simp, ?_, fun _ => Nat.zero_le _⟩
  intro i below hway specifier j hj
  rcases List.suffix_cons_iff.mp hway with hway | hway
  · rw [(List.cons.inj hway).1, asset_initial] at hj
    cases hj
  · exact absurd hway (by simp)

/-- What becomes of a discovery and of the thorough one: the same error, neither has enough fuel, or
both end. -/
inductive Agreement : Except ε (Option Discovery) → Except ε (Option (Discovery × List Report)) →
    Prop where
  | failed (e : ε) : Agreement (.error e) (.error e)
  | exhausted : Agreement (.ok none) (.ok none)
  | ended (d d' : Discovery) (log : List Report) (h : Condenses d d' log) :
      Agreement (.ok (some d)) (.ok (some (d', log)))

theorem run_thoroughly {i : Nat} (fuel : Nat) (hreached : Reached host entry s)
    (h : Shadows host.cwd s log) :
    Agreement (run host i fuel s) (runThoroughly host i fuel (s.retold log) log) := by
  -- one unit of fuel is one step of both
  induction fuel generalizing s log with
  | zero => exact .exhausted
  | succ fuel ih =>
    by_cases hs : s.stack = []
    · rw [run_of_stack_nil hs, runThoroughly, if_pos (by simp [State.retold, hs])]
      exact .ended _ _ log (h.finish hs i)
    · have hstack : ¬(s.retold log).stack.isEmpty = true := by simpa [State.retold] using hs
      rw [runThoroughly, if_neg hstack]
      rcases step_cases host hs with ⟨t, hst⟩ | ⟨e, hf⟩
      · obtain ⟨more, hstep, hreports, hshadows⟩ := hst.thoroughly hreached.invariant h
        rw [Nat.add_comm, run_add (.single hst), hstep]
        change Agreement _ (runThoroughly host i fuel (t.retold (log ++ more))
          (log ++ reportsBetween (s.retold log) (t.retold (log ++ more))))
        rw [hreports]
        exact ih (hreached.step hst) hshadows
      · rw [run_of_fails hf, hf.thoroughly]
        exact .failed e

/-- Passing recorded specifiers over leaves nothing out but repetitions of a report for a specifier
that a module has more than once. -/
theorem discover_agrees_thorough (host : Host (Except ε)) (fuel : Nat) (entry : String) :
    Agreement (discover host fuel entry) (discoverThoroughly host fuel entry) := by
  rcases start_cases host entry with ⟨path, source, specifiers, hs, hstart⟩ | ⟨e, -, hstart⟩
  · rw [discover, discoverThoroughly, hstart]
    exact run_thoroughly fuel ⟨path, source, specifiers, 0, hs, .refl _⟩
      (shadows_initial host.cwd path source specifiers)
  · rw [discover, discoverThoroughly, hstart]
    exact .failed e

/-- A module that imports itself twice is reported once, and thorough steps report it twice. -/
example :
    let host := (Resolver.mk ⟨"/p"⟩ [".js"]).host (FileStore.files (⟨[("/p/a.js".toList,
      .file "import ./a\nimport ./a".toUTF8)]⟩ : Memory)) Extract.lines
    (discover host 5 "a").toOption.join.map (·.cycles.length) = some 1 ∧
      (discoverThoroughly host 5 "a").toOption.join.map (·.1.cycles.length) = some 2 := by
  decide +kernel

end Discovery

end ModuleBundler
