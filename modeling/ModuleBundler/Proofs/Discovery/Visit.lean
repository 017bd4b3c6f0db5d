import ModuleBundler.Discovery.Basic

namespace ModuleBundler.Discovery

/-- What the visits so far have found. -/
structure Found where
  registry : Registry
  cycles : List Cycle

/-- The discovery that leaves nothing to visit. -/
def Found.finish (f : Found) : Discovery := ⟨⟨f.registry.assets, 0⟩, f.cycles⟩

/-- The cycle from module `i` down the way from the entry, if it is on the way. -/
def cycleOnWay (cwd : Path) (way : List Asset) (i : Nat) : List Cycle :=
  match way.dropWhile (·.index ≠ i) with
  | [] => []
  | ancestor :: below => [⟨(ancestor :: below ++ [ancestor]).map (·.path.stable cwd)⟩]

/-- Looks at specifiers of `a`, the last on the way from the entry, in order. One that is recorded
is passed over; a new module is visited before the next specifier. -/
def visitEach [Monad m] (host : Host m) (descend : Asset → Found → m (Option Found))
    (way : List Asset) (a : Asset) : List String → Found → m (Option Found)
  | [], f => pure (some f)
  | specifier :: specifiers, f =>
    if f.registry.isLinked a.index specifier then visitEach host descend way a specifiers f
    else do
      let target ← host.resolve specifier a.path
      let (registry, registration) ← f.registry.getOrCreate target host.load
      let registry := registry.link a.index specifier registration.index
      match registration with
      | .fresh b =>
        match ← descend b ⟨registry, f.cycles⟩ with
        | some f => visitEach host descend way a specifiers f
        | none => pure none
      | .known i =>
        visitEach host descend way a specifiers ⟨registry, f.cycles ++ cycleOnWay host.cwd way i⟩

/-- Visits a new asset at the end of the way from the entry; `none` when visits nest deeper than
`depth`. -/
def visit [Monad m] (host : Host m) : Nat → List Asset → Asset → Found → m (Option Found)
  | 0, _, _, _ => pure none
  | depth + 1, way, a, f => do
    let specifiers ← host.extract a.source a.path
    visitEach host (visit host depth (way ++ [a])) (way ++ [a]) a specifiers
      ⟨f.registry.setSpecifiers a.index specifiers, f.cycles⟩

/-- The modules reachable from the entry, by recursive visits; `none` when they nest more than
`depth` deep below that of the entry. -/
def discoverRecursively [Monad m] (host : Host m) (depth : Nat) (entry : String) :
    m (Option Discovery) := do
  let path ← host.resolveEntry entry
  let source ← host.load path
  let a := ({} : Registry).next path source
  let found ← visit host (depth + 1) [] a ⟨({} : Registry).push a, []⟩
  pure (found.map Found.finish)

variable {ε : Type} {host : Host (Except ε)}

theorem visitEach_cons (descend : Asset → Found → Except ε (Option Found)) (way : List Asset)
    (a : Asset) (specifier : String) (specifiers : List String) (f : Found) :
    visitEach host descend way a (specifier :: specifiers) f =
      if f.registry.isLinked a.index specifier then visitEach host descend way a specifiers f
      else
        match host.resolve specifier a.path with
        | .error e => .error e
        | .ok target =>
          match f.registry.lookup target with
          | some i =>
            visitEach host descend way a specifiers
              ⟨f.registry.link a.index specifier i, f.cycles ++ cycleOnWay host.cwd way i⟩
          | none =>
            match host.load target with
            | .error e => .error e
            | .ok source =>
              match descend (f.registry.next target source)
                  ⟨(f.registry.push (f.registry.next target source)).link a.index specifier
                    f.registry.assets.size, f.cycles⟩ with
              | .error e => .error e
              | .ok none => .ok none
              | .ok (some f) => visitEach host descend way a specifiers f := by
  rw [visitEach]
  cases hl : f.registry.isLinked a.index specifier with
  | true => rfl
  | false =>
    simp only [Bool.false_eq_true, if_false]
    cases hr : host.resolve specifier a.path with
    | error e => rfl
    | ok target =>
      cases hj : f.registry.lookup target with
      | some i =>
        simp [bind, Except.bind, Registry.getOrCreate_eq, hj, pure, Except.pure, Registration.index]
      | none =>
        cases hsource : host.load target with
        | error e => simp [bind, Except.bind, Registry.getOrCreate_eq, hj, hsource]
        | ok source =>
          have hi : (Registration.fresh (f.registry.next target source)).index =
              f.registry.assets.size := rfl
          simp only [bind, Except.bind, Registry.getOrCreate_eq, hj, hsource, pure, Except.pure, hi]
          cases descend (f.registry.next target source) _ with
          | error e => rfl
          | ok o => cases o <;> rfl

theorem visit_succ (depth : Nat) (way : List Asset) (a : Asset) (f : Found) :
    visit host (depth + 1) way a f =
      match host.extract a.source a.path with
      | .error e => .error e
      | .ok specifiers =>
        visitEach host (visit host depth (way ++ [a])) (way ++ [a]) a specifiers
          ⟨f.registry.setSpecifiers a.index specifiers, f.cycles⟩ := by
  rw [visit]
  cases host.extract a.source a.path <;> rfl

end ModuleBundler.Discovery
