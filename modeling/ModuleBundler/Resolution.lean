import ModuleBundler.Build.Error
import ModuleBundler.Path.Name

namespace ModuleBundler

/-- Where paths are read from, and the extensions to try, in order. -/
structure Resolver where
  cwd : Path
  extensions : List String
deriving DecidableEq, Repr, Inhabited

namespace Resolver

def defaultExtensions : List String := [".js", ".mjs", ".cjs"]

/-- Whether the specifier names a directory by its very text. -/
def namesDirectory (specifier : String) : Bool :=
  let s := specifier.toList
  s = ['.'] || s = ['.', '.'] || ['/'].isSuffixOf s || ['/', '.'].isSuffixOf s ||
    ['/', '.', '.'].isSuffixOf s

/-- The first path with one of the extensions that is a file. -/
def probe (r : Resolver) (isFile : Path → Bool) (p : Path) : Option Path :=
  (r.extensions.map fun e => p.append e.toList).find? isFile

/-- The file `index` of a directory, without an extension. -/
def indexOf (p : Path) : Path := p.join ⟨"index"⟩

/-- The file that the specifier names, read from `dir`. A path with an extension is taken as it is
if it is a file; otherwise extensions are appended in order, and at last, for a path without an
extension, to `index` inside the directory of that name. -/
def resolveIn (r : Resolver) (isFile : Path → Bool) (dir : Path) (specifier : String) :
    Option Path :=
  let path := (dir.join ⟨specifier⟩).normalize
  if namesDirectory specifier then r.probe isFile (indexOf path)
  else if path.extension?.isSome then
    if isFile path then some path else r.probe isFile path
  else
    match r.probe isFile path with
    | some found => some found
    | none => r.probe isFile (indexOf path)

/-- The paths that the specifier could name, read from `dir`, in the order in which a file among
them is preferred. -/
def candidates (r : Resolver) (dir : Path) (specifier : String) : List Path :=
  let path := (dir.join ⟨specifier⟩).normalize
  let extended (p : Path) : List Path := r.extensions.map fun e => p.append e.toList
  if namesDirectory specifier then extended (indexOf path)
  else if path.extension?.isSome then path :: extended path
  else extended path ++ extended (indexOf path)

/-- The directory that specifiers of a module are read from. -/
def directoryOf (r : Resolver) (importer : Path) : Path :=
  match importer.parent? with
  | some dir => if dir.chars = [] then r.cwd else dir
  | none => r.cwd

def resolveEntry (r : Resolver) (isFile : Path → Bool) (specifier : String) :
    Except BuildError Path :=
  match r.resolveIn isFile r.cwd specifier with
  | some p => .ok p
  | none => .error (.unresolvedEntry specifier r.cwd)

/-- The file that a specifier in the module at `importer` names. -/
def resolve (r : Resolver) (isFile : Path → Bool) (specifier : String) (importer : Path) :
    Except BuildError Path :=
  match r.resolveIn isFile (r.directoryOf importer) specifier with
  | some p => .ok p
  | none => .error (.unresolved specifier importer)

end Resolver

end ModuleBundler
