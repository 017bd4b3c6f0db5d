import ModuleBundler.Graph.Asset

namespace ModuleBundler

/-- The assets found so far, numbered in order of discovery, with a table from paths to numbers. -/
structure Registry where
  assets : Array Asset := #[]
  table : List (Path × Nat) := []
deriving Inhabited

/-- How a path is registered: it was known under a number, or an asset was made for it. -/
inductive Registration where
  | known (index : Nat)
  | fresh (asset : Asset)

/-- The number that the path is registered under. -/
def Registration.index : Registration → Nat
  | known i => i
  | fresh a => a.index

namespace Registry

/-- The number of a registered path. -/
def lookup (r : Registry) (p : Path) : Option Nat := r.table.lookup p

def asset (r : Registry) (i : Nat) : Asset := r.assets[i]!

def next (r : Registry) (p : Path) (source : String) : Asset := ⟨r.assets.size, p, source, [], {}⟩

def push (r : Registry) (a : Asset) : Registry :=
  ⟨r.assets.push a, (a.path, a.index) :: r.table⟩

/-- Registers a path in the registry that is the state of `m`. Only an unknown path is loaded; a
failing load registers nothing, and the registry is there afterwards if the state outlives errors. -/
def register [Monad m] [MonadState Registry m] (p : Path) (load : Path → m String) :
    m Registration := do
  match (← get).lookup p with
  | some i => pure (.known i)
  | none =>
    let source ← load p
    let a := (← get).next p source
    modify (·.push a)
    pure (.fresh a)

/-- Registers a path in `r`, for a caller that stops at a failing load and gives the registry up. -/
def getOrCreate [Monad m] (r : Registry) (p : Path) (load : Path → m String) :
    m (Registry × Registration) :=
  Prod.swap <$> (register p (fun p => StateT.lift (load p)) : StateT Registry m Registration).run r

def modify (r : Registry) (i : Nat) (f : Asset → Asset) : Registry :=
  { r with assets := r.assets.modify i f }

/-- Records where a specifier of an asset leads. -/
def link (r : Registry) (i : Nat) (specifier : String) (target : Nat) : Registry :=
  r.modify i fun a => { a with dependencies := a.dependencies.insert specifier target }

def setSpecifiers (r : Registry) (i : Nat) (specifiers : List String) : Registry :=
  r.modify i fun a => { a with specifiers := specifiers }

/-- Whether it is recorded where a specifier of an asset leads. -/
def isLinked (r : Registry) (i : Nat) (specifier : String) : Bool :=
  (r.assets[i]?).any (·.dependencies.contains specifier)

theorem getOrCreate_eq [Monad m] [LawfulMonad m] (r : Registry) (p : Path)
    (load : Path → m String) :
    r.getOrCreate p load =
      match r.lookup p with
      | some i => pure (r, .known i)
      | none =>
        load p >>= fun source => pure (r.push (r.next p source), .fresh (r.next p source)) := by
  unfold getOrCreate register
  cases h : r.lookup p with
  | some i => simp [h]
  | none => simp [h]

@[simp] theorem size_push (r : Registry) (a : Asset) :
    (r.push a).assets.size = r.assets.size + 1 := by
  simp [push]

@[simp] theorem size_modify (r : Registry) (i : Nat) (f : Asset → Asset) :
    (r.modify i f).assets.size = r.assets.size := by
  simp [modify]

@[simp] theorem lookup_modify (r : Registry) (i : Nat) (f : Asset → Asset) (p : Path) :
    (r.modify i f).lookup p = r.lookup p := rfl

theorem lookup_push (r : Registry) (a : Asset) (p : Path) :
    (r.push a).lookup p = if p = a.path then some a.index else r.lookup p := by
  by_cases h : p = a.path
  · simp [lookup, push, h]
  · simp [lookup, push, List.lookup_cons, beq_eq_false_iff_ne.mpr h, h]

end Registry

end ModuleBundler
