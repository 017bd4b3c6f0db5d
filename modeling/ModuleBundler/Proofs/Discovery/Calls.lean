import Mathlib.Data.List.Nodup
import ModuleBundler.Proofs.Discovery.Reachability

namespace ModuleBundler

namespace Discovery

/-- A call that discovery makes: for the text under a path, with the text if there was one, or for
the specifiers in a text. -/
inductive Call where
  | load (p : Path) (text : Option String)
  | extract (source : String) (p : Path)
deriving DecidableEq, Repr

namespace Call

/-- The paths that were loaded, in order, whatever came of it. -/
def loads (calls : List Call) : List Path :=
  calls.filterMap fun
    | load p _ => some p
    | extract _ _ => none

/-- The paths that specifiers were extracted for, in order, whatever came of it. -/
def extractions (calls : List Call) : List Path :=
  calls.filterMap fun
    | load _ _ => none
    | extract _ p => some p

/-- The paths that a text was loaded for, in order, with their texts. With each an asset is
registered. -/
def registered (calls : List Call) : List (Path × String) :=
  calls.filterMap fun
    | load p text => text.map (p, ·)
    | extract _ _ => none

/-- The calls for one path after the other: the load of a text and the extraction from it. -/
def forTexts (texts : List (Path × String)) : List Call :=
  texts.flatMap fun e => [load e.1 (some e.2), extract e.2 e.1]

/-- No path is loaded or extracted twice, and a text is extracted right after the asset for it was
registered. -/
structure Orderly (calls : List Call) : Prop where
  loads_nodup : (loads calls).Nodup
  extractions_nodup : (extractions calls).Nodup
  newest : ∀ before source p after, calls = before ++ extract source p :: after →
    (registered before).getLast? = some (p, source)

variable {texts : List (Path × String)} {p : Path}

/-- The calls for some texts, and maybe the load of one more path, which fails. -/
inductive Follows (texts : List (Path × String)) : List Call → Prop where
  | whole : Follows texts (forTexts texts)
  | missed (p : Path) (hp : p ∉ texts.map Prod.fst) :
      Follows texts (forTexts texts ++ [load p none])

theorem loads_forTexts (texts : List (Path × String)) :
    loads (forTexts texts) = texts.map Prod.fst := by
  induction texts with
  | nil => rfl
  | cons e texts ih => exact congrArg (e.1 :: ·) ih

theorem extractions_forTexts (texts : List (Path × String)) :
    extractions (forTexts texts) = texts.map Prod.fst := by
  induction texts with
  | nil => rfl
  | cons e texts ih => exact congrArg (e.1 :: ·) ih

theorem registered_forTexts (texts : List (Path × String)) :
    registered (forTexts texts) = texts := by
  induction texts with
  | nil => rfl
  | cons e texts ih => exact congrArg (e :: ·) ih

theorem forTexts_append (texts more : List (Path × String)) :
    forTexts (texts ++ more) = forTexts texts ++ forTexts more :=
  List.flatMap_append

/-- Before an extraction the last text registered is the one extracted from, whatever loads come
after the last pair of calls. -/
theorem newest_of_forTexts {before after rest : List Call} {source : String}
    (hrest : ∀ source p, extract source p ∉ rest)
    (h : forTexts texts ++ rest = before ++ extract source p :: after) :
    (registered before).getLast? = some (p, source) := by
  -- two calls are taken off for each text; the extraction is the second of some pair
  induction texts generalizing before with
  | nil =>
    refine absurd ?_ (hrest source p)
    rw [← List.nil_append rest]
    change extract source p ∈ forTexts [] ++ rest
    rw [h]
    exact List.mem_append_right before List.mem_cons_self
  | cons e texts ih =>
    change load e.1 (some e.2) :: extract e.2 e.1 :: (forTexts texts ++ rest) = _ at h
    match before with
    | [] => cases h
    | [c] =>
      cases h
      rfl
    | c :: c' :: before =>
      simp only [List.cons_append, List.cons.injEq] at h
      obtain ⟨rfl, rfl, h⟩ := h
      have hlast := ih h
      change (e :: registered before).getLast? = some (p, source)
      rw [List.getLast?_cons, hlast]
      rfl

theorem Follows.orderly {calls : List Call} (h : Follows texts calls)
    (hnodup : (texts.map Prod.fst).Nodup) : Orderly calls := by
  cases h with
  | whole =>
    refine ⟨by rwa [loads_forTexts], by rwa [extractions_forTexts], ?_⟩
    intro before source p after h
    rw [← List.append_nil (forTexts texts)] at h
    exact newest_of_forTexts (fun _ _ => List.not_mem_nil) h
  | missed p hp =>
    refine ⟨?_, ?_, ?_⟩
    · rw [loads, List.filterMap_append]
      change (loads (forTexts texts) ++ [p]).Nodup
      rw [loads_forTexts]
      exact hnodup.append (List.nodup_singleton p) (by simpa using hp)
    · rw [extractions, List.filterMap_append]
      change (extractions (forTexts texts) ++ []).Nodup
      rwa [List.append_nil, extractions_forTexts]
    · intro before source q after h
      exact newest_of_forTexts (fun _ _ => by simp) h

end Call

end Discovery

namespace Registry

variable (r : Registry) {i : Nat}

/-- The texts of the assets under their paths, in the order of the numbers. -/
def texts : List (Path × String) := r.assets.toList.map fun a => (a.path, a.source)

/-- The calls by which discovery comes to have the assets. -/
def calls : List Discovery.Call := Discovery.Call.forTexts r.texts

theorem texts_modify (f : Asset → Asset) (hpath : ∀ a, (f a).path = a.path)
    (hsource : ∀ a, (f a).source = a.source) : (r.modify i f).texts = r.texts := by
  refine List.ext_getElem? fun j => ?_
  simp only [texts, modify, List.getElem?_map, Array.getElem?_toList, Array.getElem?_modify]
  split_ifs
  · cases r.assets[j]? with
    | none => rfl
    | some a => simp [hpath, hsource]
  · rfl

theorem texts_link (specifier : String) (target : Nat) :
    (r.link i specifier target).texts = r.texts :=
  r.texts_modify _ (fun _ => rfl) fun _ => rfl

theorem texts_setSpecifiers (specifiers : List String) :
    (r.setSpecifiers i specifiers).texts = r.texts :=
  r.texts_modify _ (fun _ => rfl) fun _ => rfl

theorem texts_push (a : Asset) : (r.push a).texts = r.texts ++ [(a.path, a.source)] := by
  simp [texts, push]

theorem calls_link (specifier : String) (target : Nat) :
    (r.link i specifier target).calls = r.calls := by
  rw [calls, texts_link, calls]

theorem calls_grow (specifier : String) (target : Path) (source : String)
    (specifiers : List String) : (r.grow i specifier target source specifiers).calls =
      r.calls ++ [.load target (some source), .extract source target] := by
  rw [calls, grow, texts_setSpecifiers, texts_link, texts_push,
    Discovery.Call.forTexts_append]
  rfl

theorem map_fst_texts : r.texts.map Prod.fst = r.assets.toList.map (·.path) := by
  rw [texts, List.map_map]
  rfl

variable {r}

theorem WellFormed.map_index (hr : r.WellFormed) :
    r.assets.toList.map (·.index) = List.range r.assets.size := by
  refine List.ext_getElem (by simp) fun i hi _ => ?_
  rw [List.length_map, Array.length_toList] at hi
  have hasset := asset_eq_of_getElem? (Array.getElem?_eq_getElem hi)
  have hindex := hr.numbered i hi
  rw [hasset] at hindex
  simpa using hindex

theorem WellFormed.nodup_texts (hr : r.WellFormed) : (r.texts.map Prod.fst).Nodup := by
  rw [map_fst_texts, List.nodup_iff_pairwise_ne, List.pairwise_map, List.pairwise_iff_getElem]
  intro i j hi hj hij heq
  rw [Array.length_toList] at hi hj
  have hasset (k : Nat) (hk : k < r.assets.size) : r.asset k = r.assets[k] :=
    asset_eq_of_getElem? (Array.getElem?_eq_getElem hk)
  have hsame := hr.path_inj i j hi hj (by rw [hasset i hi, hasset j hj]; simpa using heq)
  omega

theorem WellFormed.not_mem_texts (hr : r.WellFormed) {p : Path} (h : r.lookup p = none) :
    p ∉ r.texts.map Prod.fst := by
  intro hp
  rw [map_fst_texts, List.mem_map] at hp
  obtain ⟨a, ha, rfl⟩ := hp
  obtain ⟨i, hi⟩ := Array.mem_iff_getElem?.mp (Array.mem_toList_iff.mp ha)
  have hlookup := (hr.lookup_iff a.path i).mpr
    ⟨(Array.getElem?_eq_some_iff.mp hi).1, by rw [asset_eq_of_getElem? hi]⟩
  rw [h] at hlookup
  cases hlookup

end Registry

namespace Discovery

/-- Computations that fail or succeed and leave the calls they made, after those made before. -/
abbrev Noting (ε : Type) : Type → Type := ExceptT ε (StateM (List Call))

variable {ε α β : Type} {host : Host (Except ε)} {entry specifier : String} {s t : State} {e : ε}
  {n fuel i : Nat} {target : Path} {calls calls' : List Call}

namespace Noting

/-- What a computation comes to and the calls there are then. -/
def after (x : Noting ε α) (calls : List Call) : Except ε α × List Call :=
  Id.run (x.run.run calls)

/-- An answer that comes with some calls. -/
def answer (noted : List Call) (x : Except ε α) : Noting ε α :=
  ExceptT.mk fun calls => (x, calls ++ noted)

/-- The computation comes to `y`, and makes the calls `noted` on the way. -/
def Tells (x : Noting ε α) (y : Except ε α) (noted : List Call) : Prop :=
  ∀ calls, x.after calls = (y, calls ++ noted)

theorem tells_answer (noted : List Call) (y : Except ε α) : (answer noted y).Tells y noted :=
  fun _ => rfl

theorem tells_pure (a : α) : (pure a : Noting ε α).Tells (pure a) [] := by
  intro calls
  rw [List.append_nil]
  rfl

section Bind

variable {x : Noting ε α} {y : Except ε α} {noted noted' : List Call}

theorem after_bind_error (hx : x.after calls = (.error e, calls')) (f : α → Noting ε β) :
    (x >>= f).after calls = (.error e, calls') := by
  change x.run.run calls = _ at hx
  rw [after, ExceptT.run_bind, StateT.run_bind, hx]
  rfl

theorem after_bind_ok {a : α} (hx : x.after calls = (.ok a, calls')) (f : α → Noting ε β) :
    (x >>= f).after calls = (f a).after calls' := by
  change x.run.run calls = _ at hx
  rw [after, ExceptT.run_bind, StateT.run_bind, hx]
  rfl

theorem Tells.bind_error (hx : x.Tells (.error e) noted) (f : α → Noting ε β) :
    (x >>= f).Tells (.error e) noted :=
  fun calls => after_bind_error (hx calls) f

theorem Tells.bind_ok {a : α} {f : α → Noting ε β} {z : Except ε β}
    (hx : x.Tells (.ok a) noted) (hf : (f a).Tells z noted') :
    (x >>= f).Tells z (noted ++ noted') := by
  intro calls
  rw [after_bind_ok (hx calls), hf, List.append_assoc]

theorem Tells.bind_pure (hx : x.Tells y noted) (f : α → β) :
    (x >>= fun a => pure (f a)).Tells (y >>= fun a => pure (f a)) noted := by
  cases y with
  | error e => exact hx.bind_error _
  | ok a =>
    rw [← List.append_nil noted]
    exact hx.bind_ok (tells_pure (f a))

end Bind

end Noting

/-- The host with every load and every extraction noted, whatever comes of it. -/
def noting (host : Host (Except ε)) : Host (Noting ε) where
  cwd := host.cwd
  resolveEntry entry := .answer [] (host.resolveEntry entry)
  resolve specifier importer := .answer [] (host.resolve specifier importer)
  load p := .answer [.load p (host.load p).toOption] (host.load p)
  extract source p := .answer [.extract source p] (host.extract source p)

section Step

/-- The calls for a path that is not registered: its load and, if that gives a text, the extraction
from it. -/
def callsFor (host : Host (Except ε)) (p : Path) : List Call :=
  match host.load p with
  | .error _ => [.load p none]
  | .ok source => [.load p (some source), .extract source p]

/-- The calls to follow a specifier of an asset: none if it leads to a known path. -/
def callsToFollow (host : Host (Except ε)) (r : Registry) (i : Nat) (specifier : String) :
    List Call :=
  match host.resolve specifier (r.asset i).path with
  | .error _ => []
  | .ok target =>
    match r.lookup target with
    | some _ => []
    | none => callsFor host target

/-- The calls in a step. -/
def callsInStep (host : Host (Except ε)) (s : State) : List Call :=
  match s.stack with
  | [] => []
  | ⟨i, next⟩ :: _ =>
    match (s.registry.asset i).specifiers[next]? with
    | none => []
    | some specifier =>
      if s.registry.isLinked i specifier then [] else callsToFollow host s.registry i specifier

section Register

variable {r : Registry} {p : Path} {source : String}

theorem tells_load {y : Except ε String} (h : host.load p = y) :
    ((noting host).load p).Tells y [.load p y.toOption] := by
  subst h
  exact Noting.tells_answer _ _

theorem tells_register_of_error (h : r.lookup p = none) (hload : host.load p = .error e) :
    (r.getOrCreate p (noting host).load).Tells (.error e) [.load p none] := by
  rw [Registry.getOrCreate_eq, h]
  exact (tells_load hload).bind_error _

theorem tells_register_of_ok (h : r.lookup p = none) (hload : host.load p = .ok source) :
    (r.getOrCreate p (noting host).load).Tells
      (.ok (r.push (r.next p source), .fresh (r.next p source))) [.load p (some source)] := by
  rw [Registry.getOrCreate_eq, h]
  exact (tells_load hload).bind_ok (Noting.tells_pure _)

end Register

theorem tells_enter (host : Host (Except ε)) (s : State) (i : Nat) :
    (enter (noting host) s i).Tells (enter host s i)
      [.extract (s.registry.asset i).source (s.registry.asset i).path] :=
  (Noting.tells_answer _ _).bind_pure _

/-- Registering a new path and entering its asset makes the calls for that path. -/
theorem tells_enter_next (s : State) (i : Nat) (stack : List Frame) (specifier : String)
    (target : Path) (source : String) :
    (enter (noting host) ⟨(s.registry.push (s.registry.next target source)).link i specifier
        s.registry.assets.size, stack, s.active, s.cycles⟩ s.registry.assets.size).Tells
      ((host.extract source target).map fun specifiers =>
        ⟨s.registry.grow i specifier target source specifiers,
          ⟨s.registry.assets.size, 0⟩ :: stack, activate s.active s.registry.assets.size,
          s.cycles⟩)
      [.extract source target] := by
  have h := tells_enter host ⟨(s.registry.push (s.registry.next target source)).link i specifier
    s.registry.assets.size, stack, s.active, s.cycles⟩ s.registry.assets.size
  rw [enter_next, Registry.source_link, Registry.path_link, Registry.asset_push, if_pos rfl] at h
  exact h

theorem tells_follow (host : Host (Except ε)) (s : State) (i : Nat) (specifier : String) :
    (follow (noting host) s i specifier).Tells (follow host s i specifier)
      (callsToFollow host s.registry i specifier) := by
  have hresolve : ((noting host).resolve specifier (s.registry.asset i).path).Tells
      (host.resolve specifier (s.registry.asset i).path) [] := Noting.tells_answer _ _
  rw [follow_eq]
  unfold follow callsToFollow
  cases hr : host.resolve specifier (s.registry.asset i).path with
  | error e =>
    rw [hr] at hresolve
    exact hresolve.bind_error _
  | ok target =>
    rw [hr] at hresolve
    refine hresolve.bind_ok ?_
    cases hj : s.registry.lookup target with
    | some j =>
      have hclosed : closedBy host.cwd { s with registry := s.registry.link i specifier j } j =
          closedBy host.cwd s j := by
        simp [closedBy]
      have hcreate : (s.registry.getOrCreate target (noting host).load).Tells
          (.ok (s.registry, .known j)) [] := by
        rw [Registry.getOrCreate_eq, hj]
        exact Noting.tells_pure _
      simp only [hj, ← hclosed]
      exact hcreate.bind_ok (Noting.tells_pure _)
    | none =>
      unfold callsFor
      cases hload : host.load target with
      | error e =>
        simp only [hj, hload]
        exact (tells_register_of_error hj hload).bind_error _
      | ok source =>
        simp only [hj, hload]
        exact (tells_register_of_ok hj hload).bind_ok
          (tells_enter_next s i s.stack specifier target source)

/-- A step with the calls in it noted is the step without. -/
theorem tells_step (host : Host (Except ε)) (s : State) :
    (step (noting host) s).Tells (step host s) (callsInStep host s) := by
  unfold step callsInStep
  cases hs : s.stack with
  | nil => exact Noting.tells_pure s
  | cons f rest =>
    cases hn : (s.registry.asset f.index).specifiers[f.next]? with
    | none =>
      simp only [hn]
      exact Noting.tells_pure _
    | some specifier =>
      simp only [hn]
      split_ifs
      · exact Noting.tells_pure _
      · exact tells_follow host _ f.index specifier

/-- The calls of a registry are noted, a step is taken, and the calls of the registry are noted. -/
theorem Step.after_eq (h : Step host s t) :
    (step (noting host) s).after s.registry.calls = (.ok t, t.registry.calls) := by
  rw [tells_step host s, h.step_eq, Prod.mk.injEq]
  refine ⟨rfl, ?_⟩
  cases h with
  | leave i next rest hs hn => simp only [callsInStep, hs, hn, List.append_nil]
  | skip i next rest specifier hs hn hl =>
    simp only [callsInStep, hs, hn, hl, if_true, List.append_nil]
  | revisit i next rest specifier target j hs hn hl hr hj =>
    simp only [callsInStep, hs, hn, hl, Bool.false_eq_true, if_false, callsToFollow, hr, hj,
      Registry.calls_link, List.append_nil]
  | descend i next rest specifier target source specifiers hs hn hl hr hj hsource hspecifiers =>
    simp only [callsInStep, hs, hn, hl, Bool.false_eq_true, if_false, callsToFollow, hr, hj,
      callsFor, hsource, Registry.calls_grow]

/-- The calls of a registry and those for a path that is not registered are in order. -/
theorem orderly_callsFor {r : Registry} {p : Path} (hr : r.WellFormed) (hp : r.lookup p = none) :
    Call.Orderly (r.calls ++ callsFor host p) := by
  have hnodup := hr.nodup_texts
  have hnew := hr.not_mem_texts hp
  unfold callsFor
  cases host.load p with
  | error e => exact (Call.Follows.missed p hnew).orderly hnodup
  | ok source =>
    have hwhole : r.calls ++ [.load p (some source), .extract source p] =
        Call.forTexts (r.texts ++ [(p, source)]) :=
      (Call.forTexts_append r.texts [(p, source)]).symm
    rw [hwhole]
    refine Call.Follows.whole.orderly ?_
    rw [List.map_append]
    exact hnodup.append (List.nodup_singleton p) (by simpa using hnew)

/-- A step that fails leaves notes in order as well. -/
theorem Fails.after_eq (h : Fails host s e) (hr : s.registry.WellFormed) :
    ∃ calls, (step (noting host) s).after s.registry.calls = (.error e, calls) ∧
      Call.Orderly calls := by
  rw [tells_step host s, h.step_eq]
  refine ⟨_, rfl, ?_⟩
  cases h with
  | resolve i next rest specifier hs hn hl hres =>
    simp only [callsInStep, hs, hn, hl, Bool.false_eq_true, if_false, callsToFollow, hres,
      List.append_nil]
    exact Call.Follows.whole.orderly hr.nodup_texts
  | load i next rest specifier target hs hn hl hres hj =>
    simp only [callsInStep, hs, hn, hl, Bool.false_eq_true, if_false, callsToFollow, hres, hj]
    exact orderly_callsFor hr hj
  | extract i next rest specifier target source hs hn hl hres hj =>
    simp only [callsInStep, hs, hn, hl, Bool.false_eq_true, if_false, callsToFollow, hres, hj]
    exact orderly_callsFor hr hj

end Step

section Start

variable {path : Path} {source : String} {specifiers : List String}

theorem calls_initial (path : Path) (source : String) (specifiers : List String) :
    (initial path source specifiers).registry.calls =
      [.load path (some source), .extract source path] := by
  rw [initial, Registry.calls, Registry.texts_setSpecifiers, Registry.texts_push]
  rfl

theorem tells_start (host : Host (Except ε)) (entry : String) :
    (start (noting host) entry).Tells (start host entry)
      (match host.resolveEntry entry with
      | .error _ => []
      | .ok path => callsFor host path) := by
  have hresolve : ((noting host).resolveEntry entry).Tells (host.resolveEntry entry) [] :=
    Noting.tells_answer _ _
  have hlookup (path : Path) : ({} : Registry).lookup path = none := rfl
  rw [start_eq]
  unfold start
  cases hp : host.resolveEntry entry with
  | error e =>
    rw [hp] at hresolve
    exact hresolve.bind_error _
  | ok path =>
    rw [hp] at hresolve
    refine hresolve.bind_ok ?_
    cases hload : host.load path with
    | error e =>
      simp only [hload]
      exact (tells_register_of_error (hlookup path) hload).bind_error _
    | ok source =>
      have henter := tells_enter host ⟨({} : Registry).push (({} : Registry).next path source), [],
        #[], []⟩ 0
      rw [enter_first, Registry.asset_push] at henter
      simp only [hload]
      refine (tells_register_of_ok (hlookup path) hload).bind_ok ?_
      have hpair := henter.bind_pure fun s => (0, s)
      cases hextract : host.extract source path with
      | error e =>
        rw [hextract] at hpair
        exact hpair
      | ok specifiers =>
        rw [hextract] at hpair
        exact hpair

theorem Starts.after_eq (h : Starts host entry path source specifiers) :
    (start (noting host) entry).after [] =
      (.ok (0, initial path source specifiers),
        (initial path source specifiers).registry.calls) := by
  rw [tells_start host entry, start_eq, calls_initial]
  simp only [h.resolved, h.loaded, h.extracted, callsFor]
  rfl

theorem after_start_of_error (h : start host entry = .error e) :
    ∃ calls, (start (noting host) entry).after [] = (.error e, calls) ∧ Call.Orderly calls := by
  rw [tells_start host entry, h]
  refine ⟨_, rfl, ?_⟩
  cases host.resolveEntry entry with
  | error e =>
    have hnone : Call.Follows [] [] := .whole
    exact hnone.orderly List.nodup_nil
  | ok path => exact orderly_callsFor Registry.wellFormed_empty rfl

end Start

section Run

theorem after_run_add (h : Reaches host n s t) :
    (run (noting host) i (n + fuel) s).after s.registry.calls =
      (run (noting host) i fuel t).after t.registry.calls := by
  induction h with
  | refl => rw [Nat.zero_add]
  | head hst _ ih =>
    rw [Nat.succ_add, run, if_neg (by simpa using hst.stack_ne_nil),
      Noting.after_bind_ok hst.after_eq]
    exact ih

theorem after_run_of_reaches (h : Reaches host n s t) :
    (run (noting host) i n s).after s.registry.calls = (.ok none, t.registry.calls) := by
  rw [← Nat.add_zero n, after_run_add h]
  rfl

/-- A run with the calls noted comes to what it comes to without, and its notes are in order. Where
it ends, they are those of the registry that it has then. -/
theorem after_run (host : Host (Except ε)) (i fuel : Nat) (s : State)
    (hs : ∀ n t, Reaches host n s t → t.registry.WellFormed) :
    ∃ calls, (run (noting host) i fuel s).after s.registry.calls = (run host i fuel s, calls) ∧
      Call.Orderly calls ∧
      ∀ d, run host i fuel s = .ok (some d) →
        ∃ n t, Reaches host n s t ∧ d = t.finish i ∧ calls = t.registry.calls := by
  have orderly {n : Nat} {t : State} (h : Reaches host n s t) : Call.Orderly t.registry.calls :=
    Call.Follows.whole.orderly (hs n t h).nodup_texts
  rcases run_cases host i fuel s with
    ⟨n, t, hn, hr, ht, heq⟩ | ⟨n, t, e, hn, hr, hf, heq⟩ | ⟨t, hr, heq⟩
  · obtain ⟨k, rfl⟩ := Nat.exists_eq_add_of_lt hn
    refine ⟨t.registry.calls, ?_, orderly hr, fun d hd => ⟨n, t, hr, ?_, rfl⟩⟩
    · rw [Nat.add_assoc, after_run_add hr, ← Nat.add_assoc, heq, run, if_pos (by simp [ht])]
      rfl
    · rw [heq] at hd
      cases hd
      rfl
  · obtain ⟨k, rfl⟩ := Nat.exists_eq_add_of_lt hn
    obtain ⟨calls, hcalls, horderly⟩ := hf.after_eq (hs n t hr)
    refine ⟨calls, ?_, horderly, fun d hd => ?_⟩
    · rw [Nat.add_assoc, after_run_add hr, ← Nat.add_assoc, heq, run,
        if_neg (by simpa using hf.stack_ne_nil), Noting.after_bind_error hcalls]
    · rw [heq] at hd
      cases hd
  · refine ⟨t.registry.calls, ?_, orderly hr, fun d hd => ?_⟩
    · rw [after_run_of_reaches hr, heq]
    · rw [heq] at hd
      cases hd

end Run

/-- With every load and every extraction noted, discovery comes to what it comes to without, and at
every point of the way, a failure included, no path was loaded or extracted twice, and specifiers
were only extracted from the text registered last. After so many steps the texts that were loaded
are those of the registry. And of a finished discovery the paths loaded and the paths extracted
are both those of its assets, in the order of their numbers. -/
theorem discover_calls (host : Host (Except ε)) (fuel : Nat) (entry : String) :
    ∃ calls, (discover (noting host) fuel entry).after [] = (discover host fuel entry, calls) ∧
      Call.Orderly calls ∧
      (∀ path source specifiers t, Starts host entry path source specifiers →
        Reaches host fuel (initial path source specifiers) t →
          Call.registered calls = t.registry.assets.toList.map fun a => (a.path, a.source)) ∧
      ∀ d, discover host fuel entry = .ok (some d) →
        d.graph.assets.toList.map (·.index) = List.range d.graph.assets.size ∧
        Call.loads calls = d.graph.assets.toList.map (·.path) ∧
        Call.extractions calls = d.graph.assets.toList.map (·.path) := by
  rcases start_cases host entry with ⟨path, source, specifiers, hs, heq⟩ | ⟨e, hf, heq⟩
  · have hreached {n : Nat} {t : State} (h : Reaches host n (initial path source specifiers) t) :
        Reached host entry t := ⟨path, source, specifiers, n, hs, h⟩
    obtain ⟨calls, hcalls, horderly, hend⟩ := after_run host 0 fuel (initial path source specifiers)
      fun n t h => (hreached h).invariant.registered.wellFormed
    refine ⟨calls, ?_, horderly, ?_, ?_⟩
    · rw [discover_of_starts hs, discover, Noting.after_bind_ok hs.after_eq]
      exact hcalls
    · intro path' source' specifiers' t hs' hr
      cases hs.resolved.symm.trans hs'.resolved
      cases hs.loaded.symm.trans hs'.loaded
      cases hs.extracted.symm.trans hs'.extracted
      rw [after_run_of_reaches hr] at hcalls
      obtain ⟨-, rfl⟩ := Prod.mk.inj hcalls
      exact Call.registered_forTexts _
    · intro d hd
      rw [discover_of_starts hs] at hd
      obtain ⟨n, t, hr, rfl, rfl⟩ := hend d hd
      have hpaths := t.registry.map_fst_texts
      exact ⟨(hreached hr).invariant.registered.wellFormed.map_index,
        (Call.loads_forTexts _).trans hpaths, (Call.extractions_forTexts _).trans hpaths⟩
  · obtain ⟨calls, hcalls, horderly⟩ := after_start_of_error heq
    have hdiscover : discover host fuel entry = .error e := by
      rw [discover, heq]
      rfl
    refine ⟨calls, ?_, horderly, ?_, ?_⟩
    · rw [hdiscover, discover, Noting.after_bind_error hcalls]
    · intro path source specifiers t hs
      rw [start_eq, hs.resolved] at heq
      simp only [hs.loaded, hs.extracted] at heq
      cases heq
    · intro d hd
      rw [hdiscover] at hd
      cases hd

/-- Every module of the tangle is loaded once, though two of them are imported twice. -/
theorem discover_calls_tangle : ∃ d calls,
    (discover (noting ((Resolver.mk ⟨"/p"⟩ [".js"]).host (FileStore.files tangle) Extract.lines)) 20
      "a").after [] = (.ok (some d), calls) ∧
    Call.loads calls = d.graph.assets.toList.map (·.path) ∧ d.graph.assets.size = 3 := by
  obtain ⟨d, hd, hsize⟩ := exists_eq_ok_some_of (x := discover ((Resolver.mk ⟨"/p"⟩ [".js"]).host
    (FileStore.files tangle) Extract.lines) 20 "a") (p := fun d => d.graph.assets.size == 3)
    (by decide +kernel)
  obtain ⟨calls, hcalls, -, -, hend⟩ := discover_calls ((Resolver.mk ⟨"/p"⟩ [".js"]).host
    (FileStore.files tangle) Extract.lines) 20 "a"
  exact ⟨d, calls, hcalls.trans (congrArg (·, calls) hd), (hend d hd).2.1, by simpa using hsize⟩

end Discovery

end ModuleBundler
