import ModuleBundler.Build.Options
import ModuleBundler.Discovery.Basic
import ModuleBundler.Extract.Basic
import ModuleBundler.Output.Render

namespace ModuleBundler

/-- What a bundling run produces. -/
structure Bundle where
  filename : Path
  content : String
  moduleCount : Nat
  cycles : List Cycle
deriving DecidableEq, Repr, Inhabited

/-- A bundler for one set of options, with a way to find specifiers. -/
structure Bundler where
  options : Options
  extract : Extractor

/-- The text of a file, for a module. -/
def Files.load (files : Files) (p : Path) : Except BuildError String :=
  match files.read p with
  | .ok text => .ok text
  | .error e => .error (.unreadable p e)

def Extractor.ofModule (extract : Extractor) (source : String) (p : Path) :
    Except BuildError (List String) :=
  match extract source p with
  | .ok specifiers => .ok specifiers
  | .error e => .error (.unparsable p e)

def Resolver.host (r : Resolver) (files : Files) (extract : Extractor) :
    Host (Except BuildError) where
  cwd := r.cwd
  resolveEntry := r.resolveEntry files.isFile
  resolve := r.resolve files.isFile
  load := files.load
  extract := extract.ofModule

/-- More steps than any discovery takes: each takes a step of its own for every module and every
specifier in it. -/
def Discovery.amply : Nat := Nat.pow 2 62

namespace Discovery

def toBundle (d : Discovery) (o : Options) : Except BuildError Bundle := do
  let content ← d.graph.generate o.cwd o.name
  let entry := (d.graph.assets[d.graph.entry]?.map (·.path)).getD ⟨""⟩
  return ⟨o.outputFile entry, content, d.graph.assets.size, d.cycles⟩

end Discovery

namespace Bundler

variable {σ : Type} [FileStore σ]

/-- Discovers every module reachable from the entry; `none` when `fuel` steps do not suffice. -/
def scan (b : Bundler) (fuel : Nat) (store : σ) : Except BuildError (Option Discovery) :=
  Discovery.discover (b.options.resolver.host (FileStore.files store) b.extract) fuel
    b.options.input

/-- Makes the bundle; `none` when `fuel` steps do not suffice. -/
def generate (b : Bundler) (fuel : Nat) (store : σ) : Except BuildError (Option Bundle) :=
  match b.scan fuel store with
  | .error e => .error e
  | .ok none => .ok none
  | .ok (some d) =>
    match d.toBundle b.options with
    | .error e => .error e
    | .ok bundle => .ok (some bundle)

/-- Makes the bundle and writes it to its file; `none` when `fuel` steps do not suffice. -/
def write (b : Bundler) (fuel : Nat) (store : σ) : Except BuildError (Option Bundle) × σ :=
  match b.generate fuel store with
  | .error e => (.error e, store)
  | .ok none => (.ok none, store)
  | .ok (some bundle) =>
    match FileStore.write store bundle.filename bundle.content.toUTF8 with
    | (.ok (), store) => (.ok (some bundle), store)
    | (.error e, store) => (.error (.unwritable bundle.filename e), store)

end Bundler

end ModuleBundler
