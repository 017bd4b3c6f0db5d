import ModuleBundler.Build.Error
import ModuleBundler.Ecma.Name
import ModuleBundler.Path.Name
import ModuleBundler.Resolution
import ModuleBundler.Text.Blank
import ModuleBundler.Text.Quoted
import ModuleBundler.Text.Replace

namespace ModuleBundler

/-- Options as given. -/
structure Settings where
  /-- The entry, read from `cwd`. -/
  input : Option String := none
  cwd : Option Path := none
  /-- The variable that receives the exports of the entry. -/
  name : Option String := none
  /-- The name of the output file, with `[name]` for the name of the entry. -/
  entryFilenames : Option String := none
  dir : Option String := none
  /-- The output file; it takes precedence over `dir` and `entryFilenames`. -/
  file : Option String := none
  extensions : Option (List String) := none
deriving DecidableEq, Repr, Inhabited

/-- Options as accepted. -/
structure Options where
  input : String
  /-- Absolute. -/
  cwd : Path
  name : Option String
  entryFilenames : String
  dir : String
  file : Option String
  /-- Each starts with a dot. -/
  extensions : List String
deriving DecidableEq, Repr, Inhabited

namespace Options

/-- An extension without blanks at its ends and with a leading dot; there has to be something
after the dot. -/
def dotted? (extension : String) : Option String :=
  match Text.trimChars extension.toList with
  | [] => none
  | ['.'] => none
  | '.' :: cs => some (String.ofList ('.' :: cs))
  | cs => some (String.ofList ('.' :: cs))

/-- The extensions with leading dots, in order; of equal ones, the first stays. -/
def addExtensions : List String → List String → Except BuildError (List String)
  | known, [] => .ok known
  | known, e :: es =>
    match dotted? e with
    | none => .error (.invalidOption "resolve.extensions" "extensions must not be empty")
    | some e => addExtensions (if e ∈ known then known else known ++ [e]) es

/-- The extensions to try, of which there has to be one. -/
def ofExtensions (extensions : List String) : Except BuildError (List String) :=
  match addExtensions [] extensions with
  | .ok [] => .error (.invalidOption "resolve.extensions" "at least one extension is required")
  | r => r

def resolver (o : Options) : Resolver := ⟨o.cwd, o.extensions⟩

def outputFile (o : Options) (entry : Path) : Path :=
  match o.file with
  | some file => o.cwd.join ⟨file⟩
  | none =>
    (o.cwd.join ⟨o.dir⟩).join ⟨Text.replace "[name]" entry.safeName o.entryFilenames⟩

end Options

namespace Settings

/-- The options for the settings of a caller that works in `workingDir`. The input is checked
first, then the name, then the extensions. -/
def normalize (s : Settings) (workingDir : Path) : Except BuildError Options := do
  let input ← match s.input with
    | some input =>
      if input.toList.all Text.isBlank then .error .missingInput else .ok input
    | none => .error .missingInput
  if let some name := s.name then
    if !Ecma.isBindingName name then
      throw (.invalidOption "name" (Text.quoted name ++ " is not a valid JavaScript variable name"))
  let extensions ← match s.extensions with
    | some extensions => Options.ofExtensions extensions
    | none => .ok Resolver.defaultExtensions
  return {
    input
    cwd := match s.cwd with
      | some cwd => cwd.absolutize workingDir
      | none => workingDir
    name := s.name
    entryFilenames := s.entryFilenames.getD "[name].js"
    dir := s.dir.getD "dist"
    file := s.file
    extensions }

end Settings

end ModuleBundler
