import ModuleBundler.Store.Basic

namespace ModuleBundler

/-- Why a build stops. There is no partial bundle. -/
inductive BuildError where
  /-- No entry was given. -/
  | missingInput
  | invalidOption (option reason : String)
  /-- The entry names no file. -/
  | unresolvedEntry (specifier : String) (cwd : Path)
  /-- A specifier names no file. -/
  | unresolved (specifier : String) (importer : Path)
  | unreadable (path : Path) (cause : FileError)
  /-- The specifiers of a module could not be read out of its text. -/
  | unparsable (path : Path) (cause : String)
  | unwritable (path : Path) (cause : FileError)
  /-- The graph is not closed. -/
  | invariantViolation (violation : String)
deriving DecidableEq, Repr, Inhabited

namespace BuildError

def message : BuildError → String
  | missingInput => "You must supply options.input to minipack"
  | invalidOption option reason => "Invalid option `" ++ option ++ "`: " ++ reason
  | unresolvedEntry specifier cwd =>
    "Could not resolve entry module \"" ++ specifier ++ "\" from " ++ cwd.text
  | unresolved specifier importer =>
    "Could not resolve \"" ++ specifier ++ "\" from " ++ importer.text
  | unreadable path cause => "Failed to read " ++ path.text ++ ": " ++ cause.message
  | unparsable path cause =>
    "Failed to extract import specifiers from " ++ path.text ++ ": " ++ cause
  | unwritable path cause => "Failed to write " ++ path.text ++ ": " ++ cause.message
  | invariantViolation violation => "Invariant violation: " ++ violation

/-- Whether a specifier, of the entry or of a module, names no file. -/
def isResolution : BuildError → Bool
  | unresolvedEntry .. | unresolved .. => true
  | _ => false

def cause? : BuildError → Option String
  | unreadable _ cause | unwritable _ cause => some cause.message
  | unparsable _ cause => some cause
  | _ => none

end BuildError

/-- Modules in import order, the first again at the end. -/
structure Cycle where
  members : List String
deriving DecidableEq, Repr, Inhabited

namespace Cycle

def message (c : Cycle) : String :=
  "Circular dependency: " ++ " -> ".intercalate c.members

end Cycle

end ModuleBundler
