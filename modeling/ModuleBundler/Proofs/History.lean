import Mathlib.Data.List.Induction
import ModuleBundler.Graph.Basic
import ModuleBundler.Proofs.Registry

namespace ModuleBundler.Registry

/-- A call to a registry: to register a path, or to replace specifiers and dependencies of an
asset. -/
inductive Call (ε : Type) where
  | register (p : Path) (load : Path → Except ε String)
  | update (i : Nat) (change : Asset → List String × DependencyMap)

/-- The asset with the specifiers and dependencies that a change makes of it. -/
def revise (change : Asset → List String × DependencyMap) (a : Asset) : Asset :=
  { a with specifiers := (change a).1, dependencies := (change a).2 }

variable {ε : Type}

/-- A load that notes the path it was asked for. The registry is out of its reach. -/
def noted (load : Path → Except ε String) (p : Path) :
    ExceptT ε (StateT Registry (StateM (List Path))) String :=
  ExceptT.mk (StateT.lift fun loaded => (load p, loaded ++ [p]))

/-- What comes of asking for a path, with the registry after that, failed or not, and the paths that
were loaded for it. -/
def attempt (r : Registry) (p : Path) (load : Path → Except ε String) :
    (Except ε Registration × Registry) × List Path :=
  Id.run (((register p (noted load)).run.run r).run [])

/-- The registry after a call. -/
def apply (r : Registry) : Call ε → Registry
  | .register p load => (r.attempt p load).1.2
  | .update i change => r.modify i (revise change)

/-- The registry after calls one after another, the first of them to an empty one. -/
def replay (calls : List (Call ε)) : Registry := calls.foldl apply {}

variable {r r' : Registry} {p : Path} {load : Path → Except ε String} {call : Call ε}
  {calls : List (Call ε)} {a : Asset} {e : ε} {source : String} {i : Nat}

section Attempt

theorem run_get (r : Registry) :
    (get : ExceptT ε (StateT Registry (StateM (List Path))) Registry).run.run r =
      pure (.ok r, r) := rfl

theorem run_noted (load : Path → Except ε String) (p : Path) (r : Registry) (loaded : List Path) :
    ((noted load p).run.run r).run loaded = pure ((load p, r), loaded ++ [p]) := rfl

theorem attempt_eq (r : Registry) (p : Path) (load : Path → Except ε String) :
    r.attempt p load =
      match r.lookup p with
      | some i => ((.ok (.known i), r), [])
      | none =>
        match load p with
        | .error e => ((.error e, r), [p])
        | .ok source =>
          ((.ok (.fresh (r.next p source)), r.push (r.next p source)), [p]) := by
  unfold attempt register
  simp only [ExceptT.run_bind, StateT.run_bind, run_get, pure_bind]
  cases r.lookup p with
  | some i => rfl
  | none =>
    simp only [ExceptT.run_bind, StateT.run_bind, run_noted, pure_bind]
    cases load p <;> rfl

theorem attempt_of_known (h : r.lookup p = some i) :
    r.attempt p load = ((.ok (.known i), r), []) := by
  rw [attempt_eq, h]

/-- A failing load takes the call down with it, and the registry is what it was. -/
theorem attempt_of_failed (h : r.lookup p = none) (hload : load p = .error e) :
    r.attempt p load = ((.error e, r), [p]) := by
  rw [attempt_eq, h, hload]

theorem attempt_of_loaded (h : r.lookup p = none) (hload : load p = .ok source) :
    r.attempt p load =
      ((.ok (.fresh (r.next p source)), r.push (r.next p source)), [p]) := by
  rw [attempt_eq, h, hload]

end Attempt

/-- What a call makes of a registry. -/
inductive Applies (r : Registry) : Call ε → Registry → Prop where
  | known (p : Path) (load : Path → Except ε String) (i : Nat) (h : r.lookup p = some i) :
      Applies r (.register p load) r
  | failed (p : Path) (load : Path → Except ε String) (e : ε) (h : r.lookup p = none)
      (hload : load p = .error e) : Applies r (.register p load) r
  | fresh (p : Path) (load : Path → Except ε String) (source : String) (h : r.lookup p = none)
      (hload : load p = .ok source) : Applies r (.register p load) (r.push (r.next p source))
  | update (i : Nat) (change : Asset → List String × DependencyMap) :
      Applies r (.update i change) (r.modify i (revise change))

theorem apply_register : r.apply (.register p load) = (r.attempt p load).1.2 := rfl

theorem applies_apply (r : Registry) (call : Call ε) : Applies r call (r.apply call) := by
  cases call with
  | update i change => exact .update i change
  | register p load =>
    rw [apply_register]
    cases h : r.lookup p with
    | some i =>
      rw [attempt_of_known h]
      exact .known p load i h
    | none =>
      cases hload : load p with
      | error e =>
        rw [attempt_of_failed h hload]
        exact .failed p load e h hload
      | ok source =>
        rw [attempt_of_loaded h hload]
        exact .fresh p load source h hload

theorem replay_concat (calls : List (Call ε)) (call : Call ε) :
    replay (calls ++ [call]) = (replay calls).apply call := by
  rw [replay, List.foldl_append, List.foldl_cons, List.foldl_nil, replay]

theorem replay_append_cons (calls : List (Call ε)) (call : Call ε) (after : List (Call ε)) :
    replay (calls ++ call :: after) = after.foldl apply ((replay calls).apply call) := by
  rw [replay, List.foldl_append, List.foldl_cons, replay]

section Numbers

theorem WellFormed.apply (hr : r.WellFormed) (call : Call ε) : (r.apply call).WellFormed := by
  have happlies := r.applies_apply call
  generalize r.apply call = r' at happlies
  cases happlies with
  | known => exact hr
  | failed => exact hr
  | fresh p load source h => exact hr.push p source h
  | update i change => exact hr.modify i _ (fun _ => rfl) fun _ => rfl

theorem wellFormed_replay (calls : List (Call ε)) : (replay calls).WellFormed := by
  induction calls using List.reverseRecOn with
  | nil => exact wellFormed_empty
  | append_singleton calls call ih =>
    rw [replay_concat]
    exact ih.apply call

/-- The table and a search of the assets find the same. -/
theorem WellFormed.lookup_eq_find (hr : r.WellFormed) (p : Path) (entry : Nat) :
    r.lookup p = ((AssetGraph.mk r.assets entry).findByPath p).map (·.index) := by
  unfold AssetGraph.findByPath
  cases hfind : r.assets.find? (·.path = p) with
  | none =>
    cases hlookup : r.lookup p with
    | none => rfl
    | some i =>
      obtain ⟨hi, hpath⟩ := (hr.lookup_iff p i).mp hlookup
      have hmem := Array.mem_of_getElem? (r.getElem?_assets i hi)
      exact absurd (decide_eq_true hpath) (Array.find?_eq_none.mp hfind _ hmem)
  | some a =>
    obtain ⟨i, ha⟩ := Array.mem_iff_getElem?.mp (Array.mem_of_find?_eq_some hfind)
    obtain ⟨hi, rfl⟩ := getElem?_eq_some_iff.mp ha
    have hpath : (r.asset i).path = p := by simpa using Array.find?_some hfind
    rw [(hr.lookup_iff p i).mpr ⟨hi, hpath⟩, Option.map_some, hr.numbered i hi]

end Numbers

section Loads

/-- Every call so far that asked for the path came with a load that fails. -/
def Missed (p : Path) (calls : List (Call ε)) : Prop :=
  ∀ load, .register p load ∈ calls → ∃ e, load p = .error e

theorem missed_concat : Missed p (calls ++ [call]) ↔
    Missed p calls ∧ ∀ load, .register p load = call → ∃ e, load p = .error e := by
  simp [Missed, or_imp, forall_and]

/-- A path is unknown exactly as long as no load of it has succeeded. -/
theorem lookup_replay_eq_none_iff : (replay calls).lookup p = none ↔ Missed p calls := by
  -- by the last call: only a load that succeeds makes a path known, and only its own
  induction calls using List.reverseRecOn with
  | nil => simp [Missed, replay, lookup]
  | append_singleton calls call ih =>
    rw [replay_concat, missed_concat]
    have happlies := (replay calls).applies_apply call
    generalize (replay calls).apply call = r' at happlies
    cases happlies with
    | known q load i h =>
      rw [ih]
      refine (and_iff_left_of_imp fun hmissed load' hcall => ?_).symm
      cases hcall
      rw [ih.mpr hmissed] at h
      cases h
    | failed q load e h hload =>
      rw [ih]
      refine (and_iff_left_of_imp fun _ load' hcall => ?_).symm
      cases hcall
      exact ⟨e, hload⟩
    | fresh q load source h hload =>
      rw [lookup_push_next]
      by_cases hp : p = q
      · subst hp
        rw [if_pos rfl]
        refine iff_of_false (Option.some_ne_none _) fun hmissed => ?_
        obtain ⟨e, he⟩ := hmissed.2 load rfl
        rw [hload] at he
        cases he
      · rw [if_neg hp, ih]
        refine (and_iff_left_of_imp fun _ load' hcall => ?_).symm
        cases hcall
        exact absurd rfl hp
    | update i change =>
      rw [lookup_modify, ih]
      refine (and_iff_left_of_imp fun _ load' hcall => ?_).symm
      cases hcall

end Loads

section Keeps

/-- The asset has kept its number, its path and its text. -/
structure Keeps (r : Registry) (a : Asset) : Prop where
  registered : r.lookup a.path = some a.index
  stored : a.index < r.assets.size
  index_eq : (r.asset a.index).index = a.index
  path_eq : (r.asset a.index).path = a.path
  source_eq : (r.asset a.index).source = a.source

theorem keeps_push_next (r : Registry) (p : Path) (source : String) :
    (r.push (r.next p source)).Keeps (r.next p source) := by
  have hnew : (r.push (r.next p source)).asset r.assets.size = r.next p source := by
    rw [asset_push, if_pos rfl]
  have hsize : r.assets.size < (r.push (r.next p source)).assets.size := by
    rw [size_push]
    exact Nat.lt_succ_self _
  exact ⟨(lookup_push_next r p source p).trans (if_pos rfl), hsize, congrArg Asset.index hnew,
    congrArg Asset.path hnew, congrArg Asset.source hnew⟩

theorem Keeps.apply (h : r.Keeps a) (call : Call ε) : (r.apply call).Keeps a := by
  have happlies := r.applies_apply call
  generalize r.apply call = r' at happlies
  cases happlies with
  | known => exact h
  | failed => exact h
  | fresh p load source hp =>
    have hne : a.path ≠ p := by
      rintro rfl
      rw [h.registered] at hp
      cases hp
    have hold : (r.push (r.next p source)).asset a.index = r.asset a.index := by
      rw [asset_push, if_neg (Nat.ne_of_lt h.stored)]
    refine ⟨?_, ?_, ?_, ?_, ?_⟩
    · rw [lookup_push_next, if_neg hne, h.registered]
    · rw [size_push]
      exact Nat.lt_succ_of_lt h.stored
    · rw [hold, h.index_eq]
    · rw [hold, h.path_eq]
    · rw [hold, h.source_eq]
  | update i change =>
    refine ⟨h.registered, ?_, ?_, ?_, ?_⟩
    · rw [size_modify]
      exact h.stored
    · rw [proj_modify r i _ Asset.index (revise change) fun _ => rfl, h.index_eq]
    · rw [proj_modify r i _ Asset.path (revise change) fun _ => rfl, h.path_eq]
    · rw [proj_modify r i _ Asset.source (revise change) fun _ => rfl, h.source_eq]

theorem Keeps.foldl_apply (h : r.Keeps a) (calls : List (Call ε)) :
    (calls.foldl Registry.apply r).Keeps a := by
  induction calls generalizing r with
  | nil => exact h
  | cons call calls ih => exact ih (h.apply call)

end Keeps

/-- After any calls, assets stand at their numbers, no path occurs twice, and the table holds the
paths of the assets and no others, as a search finds them. A path that is asked for then is known
and not loaded; or no load of it has succeeded, and it is loaded once. If that load fails as well,
the registry is left as it was, and the call might as well not have been made. If not, the asset
gets the next number, and keeps that, its path and its text whatever calls come after. -/
theorem replay_consistent (calls : List (Call ε)) :
    (replay calls).WellFormed ∧
    (∀ i j, i < (replay calls).assets.size → j < (replay calls).assets.size →
      ((replay calls).asset i).path = ((replay calls).asset j).path → i = j) ∧
    (∀ p entry, (replay calls).lookup p =
      ((AssetGraph.mk (replay calls).assets entry).findByPath p).map (·.index)) ∧
    ∀ p load,
      (¬Missed p calls ∧ ∃ i, (replay calls).lookup p = some i ∧
        (replay calls).attempt p load = ((.ok (.known i), replay calls), [])) ∨
      (Missed p calls ∧ ∃ e, load p = .error e ∧
        (replay calls).attempt p load = ((.error e, replay calls), [p]) ∧
        ∀ after, replay (calls ++ .register p load :: after) = replay (calls ++ after)) ∨
      Missed p calls ∧ ∃ source a, load p = .ok source ∧
        a = ⟨(replay calls).assets.size, p, source, [], {}⟩ ∧
        (replay calls).attempt p load = ((.ok (.fresh a), (replay calls).push a), [p]) ∧
        ∀ after, (replay (calls ++ .register p load :: after)).Keeps a := by
  have hr := wellFormed_replay calls
  refine ⟨hr, fun i j hi hj => hr.path_inj i j hi hj, hr.lookup_eq_find, fun p load => ?_⟩
  cases h : (replay calls).lookup p with
  | some i =>
    refine .inl ⟨fun hmissed => ?_, i, rfl, attempt_of_known h⟩
    rw [lookup_replay_eq_none_iff.mpr hmissed] at h
    cases h
  | none =>
    have hmissed := lookup_replay_eq_none_iff.mp h
    cases hload : load p with
    | error e =>
      have hattempt := attempt_of_failed h hload
      refine .inr (.inl ⟨hmissed, e, rfl, hattempt, fun after => ?_⟩)
      rw [replay_append_cons, apply_register, hattempt, replay, ← List.foldl_append, replay]
    | ok source =>
      have hattempt := attempt_of_loaded h hload
      refine .inr (.inr ⟨hmissed, source, _, rfl, rfl, hattempt, fun after => ?_⟩)
      rw [replay_append_cons, apply_register, hattempt]
      exact (keeps_push_next _ p source).foldl_apply after

/-- A path whose first load fails, and another one after it. -/
def retried : List (Call String) :=
  [.register ⟨"/a.js"⟩ fun _ => .error "gone", .register ⟨"/a.js"⟩ fun _ => .ok "A",
    .update 0 fun a => (["./b"], a.dependencies.insert "./b" 1),
    .register ⟨"/b.js"⟩ fun _ => .ok "B"]

/-- The path that was loaded in the end is not loaded again, and the other has its own number. -/
theorem replay_consistent_retried :
    (∀ load : Path → Except String String, (replay retried).attempt ⟨"/a.js"⟩ load =
      ((.ok (.known 0), replay retried), [])) ∧
    ((replay retried).asset 0).path ≠ ((replay retried).asset 1).path := by
  obtain ⟨-, hdistinct, -, hcalls⟩ := replay_consistent retried
  have hlookup : (replay retried).lookup ⟨"/a.js"⟩ = some 0 := by decide +kernel
  have hmissed : ¬Missed ⟨"/a.js"⟩ retried := by
    rw [← lookup_replay_eq_none_iff, hlookup]
    exact Option.some_ne_none 0
  refine ⟨fun load => ?_, fun hpath => ?_⟩
  · rcases hcalls ⟨"/a.js"⟩ load with ⟨-, i, hi, hattempt⟩ | ⟨hnot, -⟩ | ⟨hnot, -⟩
    · rw [hlookup] at hi
      cases hi
      exact hattempt
    · exact absurd hnot hmissed
    · exact absurd hnot hmissed
  · have hsame := hdistinct 0 1 (by decide +kernel) (by decide +kernel) hpath
    cases hsame

end ModuleBundler.Registry
