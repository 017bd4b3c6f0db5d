import Mathlib.Data.List.TakeWhile
import ModuleBundler.Bundler
import ModuleBundler.Proofs.Discovery.Run
import ModuleBundler.Proofs.Discovery.Visit

namespace ModuleBundler.Discovery

variable {ε : Type} {host : Host (Except ε)} {s t u : State} {e : ε} {n : Nat}

theorem Step.extends (h : Step host s t) : s.registry.Extends t.registry := by
  cases h with
  | leave => exact .refl
  | skip => exact .refl
  | revisit i next rest specifier target j => exact .link i specifier j
  | descend i next rest specifier target source specifiers =>
    exact .grow s.registry i specifier target source specifiers

theorem Reaches.extends (h : Reaches host n s t) : s.registry.Extends t.registry := by
  induction h with
  | refl => exact .refl
  | head hst _ ih => exact hst.extends.trans ih

/-- The active modules are those on the way from the entry. -/
structure OnWay (s : State) (way : List Asset) : Prop where
  active : s.active.toList = way.map (·.index)
  registered : ∀ b ∈ way, b.index < s.registry.assets.size ∧
    (s.registry.asset b.index).path = b.path

theorem OnWay.of_extends {way : List Asset} (h : OnWay s way) (ha : t.active = s.active)
    (hr : s.registry.Extends t.registry) : OnWay t way := by
  refine ⟨by rw [ha]; exact h.active, ?_⟩
  intro b hb
  obtain ⟨hlt, hp⟩ := h.registered b hb
  exact ⟨Nat.lt_of_lt_of_le hlt hr.size_le, (hr.path b.index hlt).trans hp⟩

theorem OnWay.closedBy_eq {way : List Asset} (h : OnWay s way) (cwd : Path) (i : Nat) :
    closedBy cwd s i = cycleOnWay cwd way i := by
  unfold cycleOnWay
  rcases closedBy_cases cwd s i with ⟨hi, hcycles⟩ | ⟨before, below, hactive, hbefore, hcycles⟩
  · have hnone : way.dropWhile (·.index ≠ i) = [] := by
      rw [List.dropWhile_eq_nil_iff]
      intro b hb
      rw [h.active] at hi
      have hne : b.index ≠ i := fun he => hi (he ▸ List.mem_map_of_mem hb)
      simpa using hne
    rw [hcycles, hnone]
  · rw [h.active] at hactive
    obtain ⟨above, rest, rfl, rfl, hrest⟩ := List.map_eq_append_iff.mp hactive
    obtain ⟨ancestor, down, rfl, hancestor, rfl⟩ := List.map_eq_cons_iff.mp hrest
    have hdrop : (above ++ ancestor :: down).dropWhile (·.index ≠ i) = ancestor :: down := by
      rw [List.dropWhile_append_of_pos, List.dropWhile_cons_of_neg]
      · simpa using hancestor
      · intro b hb
        have hne : b.index ≠ i := fun he => hbefore (he ▸ List.mem_map_of_mem hb)
        simpa using hne
    have hname (b : Asset) (hb : b ∈ ancestor :: down) :
        (s.registry.asset b.index).path = b.path :=
      (h.registered b (List.mem_append_right above hb)).2
    have hbelow : down.map (fun b => (s.registry.asset b.index).path.stable cwd) =
        down.map (·.path.stable cwd) :=
      List.map_congr_left fun b hb => by rw [hname b (List.mem_cons_of_mem _ hb)]
    have htop := hname ancestor List.mem_cons_self
    rw [hancestor] at htop
    rw [hcycles, hdrop]
    simp [Registry.cycleAlong, htop, ← hbelow, Function.comp_def]

/-- How the loop fares from `t` on, told by what the recursion returns for the module on top: it
comes to the state without that module, it fails, or it takes at least `depth` steps. -/
def Agrees (host : Host (Except ε)) (depth : Nat) (rest : List Frame) (active : Array Nat)
    (t : State) : Except ε (Option Found) → Prop
  | .ok (some f) => ∃ n, Reaches host n t ⟨f.registry, rest, active, f.cycles⟩
  | .ok none => ∃ n u, depth ≤ n ∧ Reaches host n t u
  | .error e => ∃ n u, Reaches host n t u ∧ Fails host u e

section Agrees

variable {depth : Nat} {rest : List Frame} {active : Array Nat} {o : Except ε (Option Found)}

theorem Agrees.of_reaches (hr : Reaches host n s t) (h : Agrees host depth rest active t o) :
    Agrees host (n + depth) rest active s o := by
  match o, h with
  | .ok (some _), ⟨m, h⟩ => exact ⟨n + m, hr.trans h⟩
  | .ok none, ⟨m, u, hm, h⟩ => exact ⟨n + m, u, Nat.add_le_add_left hm n, hr.trans h⟩
  | .error _, ⟨m, u, h, hf⟩ => exact ⟨n + m, u, hr.trans h, hf⟩

theorem Agrees.of_le {depth' : Nat} (hd : depth ≤ depth') (h : Agrees host depth' rest active t o) :
    Agrees host depth rest active t o := by
  match o, h with
  | .ok (some _), h => exact h
  | .ok none, ⟨m, u, hm, h⟩ => exact ⟨m, u, Nat.le_trans hd hm, h⟩
  | .error _, h => exact h

theorem Agrees.of_fails (h : Fails host s e) : Agrees host depth rest active s (.error e) :=
  ⟨0, s, .refl s, h⟩

end Agrees

/-- A module that has just been registered extends the way. -/
theorem OnWay.descend {way : List Asset} {i next : Nat} {rest : List Frame} {specifier : String}
    {target : Path} {source : String} {specifiers : List String} (h : OnWay s way) :
    OnWay ⟨s.registry.grow i specifier target source specifiers,
        ⟨s.registry.assets.size, 0⟩ :: ⟨i, next + 1⟩ :: rest,
        activate s.active s.registry.assets.size, s.cycles⟩
      (way ++ [s.registry.next target source]) ∧
    activate s.active s.registry.assets.size = s.active.push s.registry.assets.size := by
  have hnew : s.registry.assets.size ∉ s.active := by
    intro hmem
    rw [← Array.mem_toList_iff, h.active] at hmem
    obtain ⟨b, hb, hi⟩ := List.mem_map.mp hmem
    have hlt := (h.registered b hb).1
    omega
  have hpush : activate s.active s.registry.assets.size = s.active.push s.registry.assets.size := by
    rw [activate, if_neg (by simpa using hnew)]
  refine ⟨⟨?_, ?_⟩, hpush⟩
  · simp [hpush, h.active, Registry.next]
  · intro b hb
    rw [Registry.size_grow, Registry.path_grow]
    rcases List.mem_append.mp hb with hb | hb
    · obtain ⟨hlt, hp⟩ := h.registered b hb
      exact ⟨by omega, by rw [if_neg (by omega)]; exact hp⟩
    · rw [List.mem_singleton.mp hb]
      exact ⟨Nat.lt_succ_self _, if_pos rfl⟩

/-- A frame on the stack is a visit that waits: from any position of the top frame on, the loop
agrees with visits that nest at most `depth` deep. -/
def Simulates (host : Host (Except ε)) (depth : Nat) : Prop :=
  ∀ (way : List Asset) (a : Asset) (next : Nat) (rest : List Frame) (s : State),
    a ∈ way → s.stack = ⟨a.index, next⟩ :: rest → OnWay s way →
    Agrees host depth rest s.active.pop s (visitEach host (visit host depth way) way a
      ((s.registry.asset a.index).specifiers.drop next) ⟨s.registry, s.cycles⟩)

section Simulation

variable {depth : Nat} {way : List Asset} {rest : List Frame}

theorem agrees_descend (hsim : ∀ d, depth = d + 1 → Simulates host d) {i next : Nat}
    {specifier : String} {target : Path} {source : String} (hs : s.stack = ⟨i, next⟩ :: rest)
    (hn : (s.registry.asset i).specifiers[next]? = some specifier)
    (hl : s.registry.isLinked i specifier = false)
    (hr : host.resolve specifier (s.registry.asset i).path = .ok target)
    (hj : s.registry.lookup target = none) (hsource : host.load target = .ok source)
    (hway : OnWay s way) :
    Agrees host depth (⟨i, next + 1⟩ :: rest) s.active s
      (visit host depth way (s.registry.next target source)
        ⟨(s.registry.push (s.registry.next target source)).link i specifier
          s.registry.assets.size, s.cycles⟩) := by
  cases depth with
  | zero => exact ⟨0, s, Nat.le_refl 0, .refl s⟩
  | succ d =>
    have hnext : (s.registry.next target source).source = source ∧
        (s.registry.next target source).path = target ∧
        (s.registry.next target source).index = s.registry.assets.size := ⟨rfl, rfl, rfl⟩
    rw [visit_succ, hnext.1, hnext.2.1, hnext.2.2]
    cases hspecifiers : host.extract source target with
    | error e => exact .of_fails (.extract i next rest specifier target source hs hn hl hr hj
        hsource hspecifiers)
    | ok specifiers =>
      let t : State := ⟨s.registry.grow i specifier target source specifiers,
        ⟨s.registry.assets.size, 0⟩ :: ⟨i, next + 1⟩ :: rest,
        activate s.active s.registry.assets.size, s.cycles⟩
      have hstep : Step host s t := .descend i next rest specifier target source specifiers hs hn
        hl hr hj hsource hspecifiers
      obtain ⟨hway', hpush⟩ : OnWay t (way ++ [s.registry.next target source]) ∧ _ := hway.descend
      have h := hsim d rfl _ (s.registry.next target source) 0 (⟨i, next + 1⟩ :: rest) t
        (List.mem_append_right way List.mem_cons_self) rfl hway'
      have hspecs : (t.registry.asset s.registry.assets.size).specifiers = specifiers := by
        rw [Registry.specifiers_grow, if_pos rfl]
      have hactive : t.active.pop = s.active := by
        change (activate s.active s.registry.assets.size).pop = s.active
        rw [hpush, Array.pop_push]
      rw [hnext.2.2, hspecs, hactive, List.drop_zero] at h
      exact (h.of_reaches (.single hstep)).of_le (by omega)

/-- The loop looks at one more specifier of the module on top as the recursion does, if from every
state that comes back to this frame it looks at those behind it so. -/
theorem agrees_cons (hsim : ∀ d, depth = d + 1 → Simulates host d) {a : Asset} {next : Nat}
    {specifier : String} {specifiers : List String} (hs : s.stack = ⟨a.index, next⟩ :: rest)
    (hway : OnWay s way) (hpath : (s.registry.asset a.index).path = a.path)
    (hn : (s.registry.asset a.index).specifiers[next]? = some specifier)
    (go : ∀ t n, Reaches host n s t → t.stack = ⟨a.index, next + 1⟩ :: rest →
      t.active = s.active → Agrees host depth rest s.active.pop s
        (visitEach host (visit host depth way) way a specifiers ⟨t.registry, t.cycles⟩)) :
    Agrees host depth rest s.active.pop s (visitEach host (visit host depth way) way a
      (specifier :: specifiers) ⟨s.registry, s.cycles⟩) := by
  rw [visitEach_cons]
  cases hl : s.registry.isLinked a.index specifier with
  | true =>
    rw [if_pos rfl]
    have hstep : Step host s _ := .skip a.index next rest specifier hs hn hl
    have h := go _ 1 (.single hstep) rfl rfl
    exact h
  | false =>
    rw [if_neg Bool.false_ne_true, ← hpath]
    cases hr : host.resolve specifier (s.registry.asset a.index).path with
    | error e => exact .of_fails (.resolve a.index next rest specifier hs hn hl hr)
    | ok target =>
      cases hj : s.registry.lookup target with
      | some j =>
        have hstep : Step host s _ := .revisit a.index next rest specifier target j hs hn hl hr hj
        have h := go _ 1 (.single hstep) rfl rfl
        rw [hway.closedBy_eq] at h
        simpa only [hj] using h
      | none =>
        cases hsource : host.load target with
        | error e =>
          simp only [hj, hsource]
          exact .of_fails (.load a.index next rest specifier target hs hn hl hr hj hsource)
        | ok source =>
          have h := agrees_descend hsim hs hn hl hr hj hsource hway
          simp only [hj, hsource]
          cases hv : visit host depth way (s.registry.next target source)
              ⟨(s.registry.push (s.registry.next target source)).link a.index specifier
                s.registry.assets.size, s.cycles⟩ with
          | error e => rw [hv] at h; exact h
          | ok o =>
            rw [hv] at h
            cases o with
            | none => exact h
            | some f =>
              -- the module below is visited to its end, and its importer is on top again
              obtain ⟨n, hreach⟩ := h
              exact go _ n hreach rfl rfl

/-- The loop looks at the specifiers left for the module on top as the recursion does, if it agrees
with the visits below. -/
theorem agrees_visitEach (hsim : ∀ d, depth = d + 1 → Simulates host d) (a : Asset) (ha : a ∈ way)
    (specifiers : List String) (next : Nat) (hs : s.stack = ⟨a.index, next⟩ :: rest)
    (hway : OnWay s way) (hspecs : (s.registry.asset a.index).specifiers.drop next = specifiers) :
    Agrees host depth rest s.active.pop s
      (visitEach host (visit host depth way) way a specifiers ⟨s.registry, s.cycles⟩) := by
  -- on the specifiers left; the state moves on with them, the frame below stays
  induction specifiers generalizing s next with
  | nil =>
    have hn : (s.registry.asset a.index).specifiers[next]? = none :=
      List.getElem?_eq_none (List.drop_eq_nil_iff.mp hspecs)
    exact ⟨1, .single (.leave a.index next rest hs hn)⟩
  | cons specifier specifiers ih =>
    have hn : (s.registry.asset a.index).specifiers[next]? = some specifier := by
      rw [← List.head?_drop, hspecs, List.head?_cons]
    have hrest : (s.registry.asset a.index).specifiers.drop (next + 1) = specifiers := by
      rw [← List.tail_drop, hspecs, List.tail_cons]
    obtain ⟨hlt, hpath⟩ := hway.registered a ha
    apply agrees_cons hsim hs hway hpath hn
    intro t n hr ht hactive
    have h := ih (next + 1) ht (hway.of_extends hactive hr.extends)
      (by rw [hr.extends.specifiers a.index hlt]; exact hrest)
    rw [hactive] at h
    exact (h.of_reaches hr).of_le (Nat.le_add_left depth n)

theorem simulates (host : Host (Except ε)) (depth : Nat) : Simulates host depth := by
  induction depth with
  | zero =>
    intro way a next rest s ha hs hway
    exact agrees_visitEach (fun d hd => absurd hd (Nat.succ_ne_zero d).symm) a ha _ next hs hway rfl
  | succ depth ih =>
    intro way a next rest s ha hs hway
    exact agrees_visitEach (fun d hd => Nat.succ.inj hd ▸ ih) a ha _ next hs hway rfl

end Simulation

section Entry

variable {entry : String} {path : Path} {source : String} {specifiers : List String}

/-- Looks at the specifiers of the entry, the only module on the way. -/
def visitEntry (host : Host (Except ε)) (depth : Nat) (path : Path) (source : String)
    (specifiers : List String) : Except ε (Option Found) :=
  let a := ({} : Registry).next path source
  visitEach host (visit host depth [a]) [a] a specifiers
    ⟨(initial path source specifiers).registry, []⟩

theorem visit_first (depth : Nat) (path : Path) (source : String) :
    visit host (depth + 1) [] (({} : Registry).next path source)
        ⟨({} : Registry).push (({} : Registry).next path source), []⟩ =
      match host.extract source path with
      | .error e => .error e
      | .ok specifiers => visitEntry host depth path source specifiers :=
  visit_succ depth [] _ _

theorem discoverRecursively_eq (host : Host (Except ε)) (depth : Nat) (entry : String) :
    discoverRecursively host depth entry =
      match host.resolveEntry entry with
      | .error e => .error e
      | .ok path =>
        match host.load path with
        | .error e => .error e
        | .ok source =>
          match host.extract source path with
          | .error e => .error e
          | .ok specifiers =>
            (visitEntry host depth path source specifiers).map (·.map Found.finish) := by
  unfold discoverRecursively
  cases host.resolveEntry entry with
  | error e => rfl
  | ok path =>
    cases hsource : host.load path with
    | error e => simp only [bind, Except.bind, hsource]
    | ok source =>
      simp only [bind, Except.bind, hsource, visit_first]
      cases host.extract source path with
      | error e => rfl
      | ok specifiers => cases visitEntry host depth path source specifiers <;> rfl

theorem recursively_of_startFails (h : StartFails host entry e) (depth : Nat) :
    discoverRecursively host depth entry = .error e := by
  rw [discoverRecursively_eq]
  cases h with
  | resolve h => rw [h]
  | load path h hsource => simp only [h, hsource]
  | extract path source h hsource hspecifiers => simp only [h, hsource, hspecifiers]

/-- From the entry on, the loop agrees with visits that nest at most `depth` deep. -/
theorem agrees_initial (host : Host (Except ε)) (path : Path) (source : String)
    (specifiers : List String) (depth : Nat) :
    Agrees host depth [] #[] (initial path source specifiers)
      (visitEntry host depth path source specifiers) := by
  have hfirst : (({} : Registry).push (({} : Registry).next path source)).asset 0 =
      ({} : Registry).next path source := by
    rw [Registry.asset_push]
    rfl
  have hspecs : ((initial path source specifiers).registry.asset 0).specifiers = specifiers := by
    rw [initial, Registry.specifiers_setSpecifiers, if_pos (by simp)]
  have hway : OnWay (initial path source specifiers) [({} : Registry).next path source] := by
    refine ⟨rfl, ?_⟩
    intro b hb
    rw [List.mem_singleton.mp hb]
    change 0 < _ ∧ ((initial path source specifiers).registry.asset 0).path = path
    rw [initial, Registry.path_setSpecifiers, hfirst]
    exact ⟨by simp, rfl⟩
  have h := simulates host depth _ (({} : Registry).next path source) 0 []
    (initial path source specifiers) List.mem_cons_self rfl hway
  change Agrees host depth [] #[] _ (visitEach host _ _ _
    (((initial path source specifiers).registry.asset 0).specifiers.drop 0) _) at h
  rw [hspecs] at h
  exact h

/-- What the recursion returns at its end, the loop returns. -/
theorem Agrees.exists_run_eq {depth : Nat} {o : Except ε Discovery}
    {found : Except ε (Option Found)} (h : Agrees host depth [] #[] s found)
    (ho : found.map (·.map Found.finish) = o.map some) :
    ∃ fuel, run host 0 fuel s = o.map some := by
  rw [← ho]
  match found, h with
  | .error e, ⟨n, u, hr, hf⟩ => exact ⟨n + 1, run_of_failed hr hf (Nat.lt_succ_self n)⟩
  | .ok none, _ => cases o <;> cases ho
  | .ok (some f), ⟨n, hr⟩ => exact ⟨n + 1, run_of_ended hr rfl (Nat.lt_succ_self n)⟩

/-- What the loop returns at its end, the recursion returns. -/
theorem Agrees.eq_of_run {fuel : Nat} {o : Except ε Discovery} {found : Except ε (Option Found)}
    (h : Agrees host fuel [] #[] s found) (hrun : run host 0 fuel s = o.map some) :
    found.map (·.map Found.finish) = o.map some := by
  match found, h with
  | .error e, ⟨n, u, hr, hf⟩ =>
    rw [← run_of_le hrun (Nat.le_add_right fuel (n + 1)), run_of_failed hr hf (by omega)]
    rfl
  | .ok none, ⟨n, u, hn, hr⟩ =>
    rw [run_of_reaches_le hr hn] at hrun
    cases o <;> cases hrun
  | .ok (some f), ⟨n, hr⟩ =>
    rw [← run_of_le hrun (Nat.le_add_right fuel (n + 1)), run_of_ended hr rfl (by omega)]
    rfl

/-- The steps with their stack return what the recursive visits return, a discovery or an error,
whenever either ends: the same assets, numbers, specifiers and dependency maps, and the same cycles
in the same order. From enough steps on, more of them change nothing. -/
theorem discover_iff_recursively (r : Resolver) (files : Files) (extract : Extractor)
    (entry : String) (o : Except BuildError Discovery) :
    (∃ depth, discoverRecursively (r.host files extract) depth entry = o.map some) ↔
      ∃ enough, ∀ fuel ≥ enough, discover (r.host files extract) fuel entry = o.map some := by
  rcases start_cases (r.host files extract) entry with
    ⟨path, source, specifiers, hs, -⟩ | ⟨e, hf, heq⟩
  · have hrec (depth : Nat) := discoverRecursively_eq (r.host files extract) depth entry
    simp only [hs.resolved, hs.loaded, hs.extracted] at hrec
    simp only [discover_of_starts hs, hrec]
    constructor
    · rintro ⟨depth, h⟩
      obtain ⟨enough, hrun⟩ := (agrees_initial _ path source specifiers depth).exists_run_eq h
      exact ⟨enough, fun fuel hle => run_of_le hrun hle⟩
    · rintro ⟨enough, h⟩
      have hagrees := agrees_initial (r.host files extract) path source specifiers enough
      exact ⟨enough, hagrees.eq_of_run (h enough (Nat.le_refl enough))⟩
  · have hd (fuel : Nat) : discover (r.host files extract) fuel entry = .error e := by
      rw [discover, heq]
      rfl
    simp only [hd, recursively_of_startFails hf]
    constructor
    · rintro ⟨-, h⟩
      exact ⟨0, fun _ _ => h⟩
    · rintro ⟨enough, h⟩
      exact ⟨0, h enough (Nat.le_refl enough)⟩

end Entry

end ModuleBundler.Discovery
