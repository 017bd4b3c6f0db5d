import ModuleBundler.Bundler
import ModuleBundler.Command.Arguments
import ModuleBundler.Decimal.Hundredths

namespace ModuleBundler.Command

/-- A colour, by its code in a terminal. -/
inductive Colour where
  | red | green | yellow | cyan | faint | bright
deriving DecidableEq, Repr

def Colour.code : Colour → String
  | .red => "31"
  | .green => "32"
  | .yellow => "33"
  | .cyan => "36"
  | .faint => "2;37"
  | .bright => "1;37"

def paint (c : Colour) (s : String) : String := "\x1b[" ++ c.code ++ "m" ++ s ++ "\x1b[0m"

/-- What a run of the command leaves: a code for the caller and texts for both outputs. -/
structure Outcome where
  code : Nat := 0
  output : String := ""
  errors : String := ""
  /-- Whether the time that the run took belongs behind the output. -/
  timed : Bool := false
deriving DecidableEq, Repr, Inhabited

def usage : String := "Usage: minipack [OPTIONS] <INPUT>\n"

/-- The outcome of a command line that asks for no build. -/
def Stop.outcome : Stop → Outcome
  | .misuse => { code := 2, errors := usage }
  | .version => { output := "minipack_cli 0.1.0\n" }
  | .help => { output := usage }

def cycleLine (c : Cycle) : String := paint .yellow "Warning:" ++ " " ++ c.message ++ "\n"

def bundleLine (cwd : Path) (b : Bundle) : String :=
  paint .faint "<DIR>/" ++ paint .cyan (b.filename.under cwd).text ++ " " ++
    paint .faint "│ size: " ++ Decimal.hundredths b.content.utf8ByteSize 1024 ++ " kB " ++
    paint .faint ("│ modules: " ++ toString b.moduleCount) ++ "\n"

def failed (message : String) : Outcome :=
  { code := 1, errors := paint .red "Error:" ++ " " ++ message ++ "\n" }

def finished (silent : Bool) (cwd : Path) (b : Bundle) : Outcome :=
  if silent then {}
  else
    { output := String.join (b.cycles.map cycleLine) ++ bundleLine cwd b ++ "\n" ++
        paint .green "✔" ++ " Finished in "
      timed := true }

/-- The outcome of a build; there is no bundle if discovery was given up. -/
def outcome (silent : Bool) (cwd : Path) : Except BuildError (Option Bundle) → Outcome
  | .ok (some b) => finished silent cwd b
  | .ok none => failed "Discovery took too many steps"
  | .error e => failed e.message

def run {σ : Type} [FileStore σ] (extract : Extractor) (workingDir : Path) (words : List String)
    (store : σ) : Outcome × σ :=
  match arguments words with
  | .error stop => (stop.outcome, store)
  | .ok a =>
    match a.settings.normalize workingDir with
    | .error e => (failed e.message, store)
    | .ok o =>
      let (result, store) := Bundler.write ⟨o, extract⟩ Discovery.amply store
      (outcome a.silent o.cwd result, store)

end ModuleBundler.Command
