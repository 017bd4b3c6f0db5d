import ModuleBundler.Path.Name
import ModuleBundler.Store.Basic

namespace ModuleBundler

/-- A file, or a directory with its entries. -/
inductive Disk.Node where
  | file (bytes : ByteArray)
  | directory (entries : List (List Char × Disk.Node))

/-- A tree of directories as an operating system keeps it, given by the entries of its root. -/
structure Disk where
  entries : List (List Char × Disk.Node)

namespace Disk

def empty : Disk := ⟨[]⟩

instance : Inhabited Disk := ⟨empty⟩

def nodeAt (entries : List (List Char × Node)) : List (List Char) → Option Node
  | [] => some (.directory entries)
  | name :: names =>
    match entries.lookup name with
    | none => none
    | some (.directory inner) => nodeAt inner names
    | some (.file bytes) => if names = [] then some (.file bytes) else none

/-- Takes a step from the directory that `trail` leads to; the trail holds its last name first. -/
def enter (d : Disk) (trail : List (List Char)) (step : List Char) :
    Except FileError (List (List Char)) :=
  match nodeAt d.entries trail.reverse with
  | some (.directory inner) =>
    if step = Path.up then .ok trail.tail
    else if (inner.lookup step).isSome then .ok (step :: trail)
    else .error .notFound
  | some (.file _) => .error .notDirectory
  | none => .error .notFound

/-- The trail to what the path names, last name first. A path that ends in an idle piece has to
name a directory. -/
def locate (d : Disk) (p : Path) : Except FileError (List (List Char)) := do
  let trail ← p.steps.foldlM d.enter []
  match p.pieces.getLast?, nodeAt d.entries trail.reverse with
  | some last, some (.file _) => if Path.isIdle last then .error .notDirectory else .ok trail
  | _, _ => .ok trail

def find (d : Disk) (p : Path) : Except FileError Node := do
  match nodeAt d.entries (← d.locate p).reverse with
  | some node => .ok node
  | none => .error .notFound

mutual

def filesAt (path : List Char) : Node → List (List Char × ByteArray)
  | .file bytes => [(path, bytes)]
  | .directory entries => filesBelow path entries

/-- The files below a path that has the given entries. -/
def filesBelow (path : List Char) : List (List Char × Node) → List (List Char × ByteArray)
  | [] => []
  | (name, node) :: entries => filesAt (path ++ '/' :: name) node ++ filesBelow path entries

end

def files (d : Disk) : List (Path × ByteArray) :=
  (filesBelow [] d.entries).map fun (path, bytes) => (Path.ofChars path, bytes)

def isFile (d : Disk) (p : Path) : Bool :=
  match d.find p with
  | .ok (.file _) => true
  | _ => false

def isDirectory (d : Disk) (p : Path) : Bool :=
  match d.find p with
  | .ok (.directory _) => true
  | _ => false

def read (d : Disk) (p : Path) : Except FileError String := do
  match ← d.find p with
  | .file bytes => decodeText bytes
  | .directory _ => .error .isDirectory

/-- The entries with another node under the name, new names last. -/
def setEntry (entries : List (List Char × Node)) (name : List Char) (node : Node) :
    List (List Char × Node) :=
  if (entries.lookup name).isSome then
    entries.map fun e => if e.1 = name then (name, node) else e
  else entries ++ [(name, node)]

/-- The entries with a node under the last name of the trail. -/
def setNode (entries : List (List Char × Node)) (node : Node) :
    List (List Char) → List (List Char × Node)
  | [] => entries
  | [name] => setEntry entries name node
  | name :: names =>
    match entries.lookup name with
    | some (.directory inner) => setEntry entries name (.directory (setNode inner node names))
    | _ => entries

/-- The trail to the directory that would hold the last step of the path, and that step. -/
def lastStep (d : Disk) (p : Path) : Except FileError (List (List Char) × Option (List Char)) := do
  let trail ← p.steps.dropLast.foldlM d.enter []
  match nodeAt d.entries trail.reverse with
  | some (.directory _) => .ok (trail, p.steps.getLast?)
  | _ => .error .notDirectory

def makeDirectory (d : Disk) (p : Path) : Except FileError Disk := do
  match ← d.lastStep p with
  | (_, none) => .error .alreadyExists
  | (trail, some step) =>
    match d.enter trail step with
    | .ok _ => .error .alreadyExists
    | .error .notFound => .ok ⟨setNode d.entries (.directory []) (step :: trail).reverse⟩
    | .error e => .error e

/-- Makes a directory if it is not there, in a directory that is. -/
def ensureDirectory (d : Disk) (p : Path) : Except FileError Disk :=
  match d.makeDirectory p with
  | .ok d' => .ok d'
  | .error e => if d.isDirectory p then .ok d else .error e

/-- Makes a directory and those above it that are missing, at most `n` of them. -/
def ensureDirectories : Nat → Disk → Path → Except FileError Unit × Disk
  | n, d, p =>
    match d.ensureDirectory p with
    | .ok d => (.ok (), d)
    | .error .notFound =>
      match n, p.parent? with
      | n + 1, some above =>
        match ensureDirectories n d above with
        | (.error e, d) => (.error e, d)
        | (.ok (), d) =>
          match d.ensureDirectory p with
          | .ok d => (.ok (), d)
          | .error e => (.error e, d)
      | _, _ => (.error .notFound, d)
    | .error e => (.error e, d)

/-- Whether the last piece that is not empty is a dot. -/
def endsInDot (p : Path) : Bool := (p.pieces.reverse.dropWhile (· = [])).head? == some ['.']

/-- Writes a file whose directory is there. A slash at the end asks for a directory, and a dot for
one that is there. -/
def writeFile (d : Disk) (p : Path) (bytes : ByteArray) : Except FileError Disk := do
  match ← d.lastStep p with
  | (_, none) => .error .isDirectory
  | (trail, some step) =>
    if endsInDot p then
      let _ ← d.find p
      .error .isDirectory
    else if step = Path.up || p.endsInSlash then .error .isDirectory
    else match nodeAt d.entries (step :: trail).reverse with
      | some (.directory _) => .error .isDirectory
      | _ => .ok ⟨setNode d.entries (.file bytes) (step :: trail).reverse⟩

def write (d : Disk) (p : Path) (bytes : ByteArray) : Except FileError Unit × Disk :=
  let (made, d) : Except FileError Unit × Disk := match p.parent? with
    | some dir => if dir.chars = [] then (.ok (), d) else ensureDirectories dir.chars.length d dir
    | none => (.ok (), d)
  match made with
  | .error e => (.error e, d)
  | .ok () =>
    match d.writeFile p bytes with
    | .ok d => (.ok (), d)
    | .error e => (.error e, d)

instance : FileStore Disk := ⟨isFile, read, write⟩

end Disk

end ModuleBundler
