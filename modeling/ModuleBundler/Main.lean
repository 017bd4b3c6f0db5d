import ModuleBundler.Command.Report
import ModuleBundler.Extract.Ecma

namespace ModuleBundler.Command

/-- Work on the files of the system that may fail as a build does. -/
abbrev Work (α : Type) : Type := ExceptT BuildError IO α

def isFile (p : Path) : IO Bool := do
  try
    let found ← IO.FS.realPath p.text
    return (← found.metadata).type matches .file
  catch _ => return false

def fault : IO.Error → FileError
  | .noFileOrDirectory .. => .notFound
  | .alreadyExists .. => .alreadyExists
  | e => .other e.toString

def load (p : Path) : Work String := do
  match ← (IO.FS.readBinFile p.text).toBaseIO with
  | .error e => throw (.unreadable p (fault e))
  | .ok bytes =>
    match decodeText bytes with
    | .ok text => return text
    | .error e => throw (.unreadable p e)

def firstFile : List Path → IO (Option Path)
  | [] => return none
  | p :: ps => do if ← isFile p then return some p else firstFile ps

def host (r : Resolver) (extract : Extractor) : Host (ExceptT BuildError IO) where
  cwd := r.cwd
  resolveEntry specifier := do
    match ← firstFile (r.candidates r.cwd specifier) with
    | some p => return p
    | none => throw (.unresolvedEntry specifier r.cwd)
  resolve specifier importer := do
    match ← firstFile (r.candidates (r.directoryOf importer) specifier) with
    | some p => return p
    | none => throw (.unresolved specifier importer)
  load := load
  extract source p := liftExcept (extract.ofModule source p)
where
  liftExcept {α : Type} (result : Except BuildError α) : ExceptT BuildError IO α :=
    match result with
    | .ok a => return a
    | .error e => throw e

/-- Writes a file, and makes the directories above it. -/
def writeText (p : Path) (text : String) : IO Unit := do
  match p.parent? with
  | some dir => if !dir.text.isEmpty then IO.FS.createDirAll dir.text
  | none => pure ()
  IO.FS.writeFile p.text text

def writeBundle (b : Bundle) : Work Unit := do
  match ← (writeText b.filename b.content).toBaseIO with
  | .ok () => return ()
  | .error e => throw (.unwritable b.filename (fault e))

def build (o : Options) : Work (Option Bundle) := do
  match ← Discovery.discover (host o.resolver Extract.ecma) Discovery.amply o.input with
  | none => return none
  | some d =>
    match d.toBundle o with
    | .error e => throw e
    | .ok b =>
      writeBundle b
      return some b

def runHere (words : List String) : IO Outcome := do
  match arguments words with
  | .error stop => return stop.outcome
  | .ok a =>
    match a.settings.normalize ⟨(← IO.currentDir).toString⟩ with
    | .error e => return failed e.message
    | .ok o => return outcome a.silent o.cwd (← (build o).run)

/-- The time since the given one, in milliseconds. -/
def timeSince (start : Nat) : IO String := do
  let now ← IO.monoNanosNow
  return paint .bright (Decimal.hundredths (now - start) 1000000 ++ " ms")

end ModuleBundler.Command

open ModuleBundler.Command in
def main (words : List String) : IO UInt32 := do
  let start ← IO.monoNanosNow
  let told ← runHere words
  IO.print told.output
  if told.timed then IO.println (← timeSince start)
  IO.eprint told.errors
  return UInt32.ofNat told.code
