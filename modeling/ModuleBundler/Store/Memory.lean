import ModuleBundler.Path.Name
import ModuleBundler.Store.Basic

namespace ModuleBundler

/-- What a key holds. -/
inductive Entry where
  | directory
  | file (bytes : ByteArray)

/-- A flat table from keys to directories and files. The empty key is the root. -/
structure Memory where
  entries : List (List Char × Entry)

namespace Memory

open Text (dropWhileEnd)

/-- The text of a path with `/` for every backslash and no `/` at its end. Nothing else is folded,
so `a/./b` and `a/b` have different keys. -/
def key (p : Path) : List Char :=
  dropWhileEnd (· = '/') (p.chars.map fun c => if c = '\\' then '/' else c)

def empty : Memory := ⟨[([], .directory)]⟩

instance : Inhabited Memory := ⟨empty⟩

def get? (m : Memory) (k : List Char) : Option Entry := m.entries.lookup k

def put (m : Memory) (k : List Char) (e : Entry) : Memory :=
  ⟨(k, e) :: m.entries.filter (·.1 ≠ k)⟩

/-- The text before the last `/` of a key, if it has one. -/
def parentKey? (k : List Char) : Option (List Char) :=
  match k.reverse.dropWhile (· ≠ '/') with
  | [] => none
  | _ :: before => some before.reverse

def create (m : Memory) (k : List Char) (e : Entry) : Except FileError Memory :=
  match parentKey? k with
  | none => .error .parentMissing
  | some parent => if (m.get? parent).isSome then .ok (m.put k e) else .error .parentMissing

/-- Creates the directories for the given keys, in order, those that hold something left as
they are. What was created before a refusal stays. -/
def createMissing (m : Memory) : List (List Char) → Except FileError Unit × Memory
  | [] => (.ok (), m)
  | k :: ks =>
    if k = [] || (m.get? k).isSome then m.createMissing ks
    else match m.create k .directory with
      | .ok m' => m'.createMissing ks
      | .error e => (.error e, m)

def isFile (m : Memory) (p : Path) : Bool :=
  match m.get? (key p) with
  | some (.file _) => true
  | _ => false

def read (m : Memory) (p : Path) : Except FileError String :=
  match m.get? (key p) with
  | none => .error (.missing (String.ofList (key p)))
  | some .directory => .error .notAFile
  | some (.file bytes) => decodeText bytes

/-- Creates what is missing of the directories above the path, outermost first, and then the
file, in place of whatever was there. -/
def write (m : Memory) (p : Path) (bytes : ByteArray) : Except FileError Unit × Memory :=
  let above := match p.parent? with
    | some dir => dir.ancestors.reverse.map key
    | none => []
  match m.createMissing above with
  | (.error e, m) => (.error e, m)
  | (.ok (), m) =>
    match m.create (key p) (.file bytes) with
    | .ok m' => (.ok (), m')
    | .error e => (.error e, m)

instance : FileStore Memory := ⟨isFile, read, write⟩

end Memory

end ModuleBundler
