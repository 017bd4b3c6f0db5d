import ModuleBundler.Graph.Basic
import ModuleBundler.Graph.Registry
import ModuleBundler.Path.Normal

namespace ModuleBundler

/-- What discovery asks of its surroundings, with effects in `m`. -/
structure Host (m : Type → Type) where
  /-- Cycles name modules relative to this directory. -/
  cwd : Path
  /-- The file that the entry names. -/
  resolveEntry : String → m Path
  /-- The file that a specifier in a module names. -/
  resolve : String → Path → m Path
  /-- The text of a file. -/
  load : Path → m String
  /-- The specifiers in a text read from a path, in source order. -/
  extract : String → Path → m (List String)

/-- A finished discovery. -/
structure Discovery where
  graph : AssetGraph
  cycles : List Cycle
deriving Inhabited

namespace Discovery

/-- A module being visited, with the position of the specifier to look at next. -/
structure Frame where
  index : Nat
  next : Nat
deriving DecidableEq, Repr, Inhabited

/-- A discovery under way; the stack holds the module visited last first. -/
structure State where
  registry : Registry
  stack : List Frame
  /-- The numbers on the stack, each once, the module visited last at the end. -/
  active : Array Nat
  cycles : List Cycle
deriving Inhabited

/-- The numbers with one more at the end, unless it is among them. -/
def activate (active : Array Nat) (i : Nat) : Array Nat :=
  if active.contains i then active else active.push i

/-- The cycle that leads back to module `i`, if that is active: the names of the modules from
there on, and its own again. -/
def closedBy (cwd : Path) (s : State) (i : Nat) : List Cycle :=
  match s.active.idxOf? i with
  | some start =>
    [⟨(s.active.toList.drop start ++ [i]).map fun j => (s.registry.asset j).path.stable cwd⟩]
  | none => []

/-- Reads the specifiers of a new asset and puts it on the stack. -/
def enter [Monad m] (host : Host m) (s : State) (i : Nat) : m State := do
  let a := s.registry.asset i
  let specifiers ← host.extract a.source a.path
  pure { s with
    registry := s.registry.setSpecifiers i specifiers
    stack := ⟨i, 0⟩ :: s.stack
    active := activate s.active i }

/-- Follows a specifier of the module on top of the stack. -/
def follow [Monad m] (host : Host m) (s : State) (importer : Nat) (specifier : String) :
    m State := do
  let target ← host.resolve specifier (s.registry.asset importer).path
  let (registry, registration) ← s.registry.getOrCreate target host.load
  let s := { s with registry := registry.link importer specifier registration.index }
  match registration with
  | .fresh a => enter host s a.index
  | .known i => pure { s with cycles := s.cycles ++ closedBy host.cwd s i }

/-- One step: leaves a module without a next specifier, or looks at that one. A specifier whose
target is recorded already is passed over. -/
def step [Monad m] (host : Host m) (s : State) : m State :=
  match s.stack with
  | [] => pure s
  | ⟨i, next⟩ :: rest =>
    match (s.registry.asset i).specifiers[next]? with
    | none => pure { s with stack := rest, active := s.active.pop }
    | some specifier =>
      let s := { s with stack := ⟨i, next + 1⟩ :: rest }
      if s.registry.isLinked i specifier then pure s else follow host s i specifier

/-- The number of the entry, and the state with the entry on the stack and nothing visited. -/
def start [Monad m] (host : Host m) (entry : String) : m (Nat × State) := do
  let path ← host.resolveEntry entry
  let (registry, registration) ← Registry.getOrCreate {} path host.load
  let s ← enter host ⟨registry, [], #[], []⟩ registration.index
  pure (registration.index, s)

/-- What was discovered from the entry with the given number, when nothing is left to visit. -/
def State.finish (s : State) (entry : Nat) : Discovery := ⟨⟨s.registry.assets, entry⟩, s.cycles⟩

/-- Steps until the stack is empty; `none` when `fuel` steps do not suffice. -/
def run [Monad m] (host : Host m) (entry : Nat) : Nat → State → m (Option Discovery)
  | 0, _ => pure none
  | fuel + 1, s =>
    if s.stack.isEmpty then pure (some (s.finish entry))
    else do
      let s ← step host s
      run host entry fuel s

/-- The modules reachable from the entry, depth-first; `none` when `fuel` steps do not suffice. Each
new module is visited to its end before the next specifier of its importer is looked at, so numbers
follow the pre-order of a recursive visit; a stack of its own keeps deep graphs off the call
stack. -/
def discover [Monad m] (host : Host m) (fuel : Nat) (entry : String) : m (Option Discovery) := do
  let (i, s) ← start host entry
  run host i fuel s

end Discovery

end ModuleBundler
