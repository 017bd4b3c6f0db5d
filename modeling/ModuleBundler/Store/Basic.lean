import ModuleBundler.Path.Basic

namespace ModuleBundler

/-- Why a store refused. -/
inductive FileError where
  /-- Nothing is stored under the key. -/
  | missing (key : String)
  /-- A directory is stored under the key. -/
  | notAFile
  /-- The directory that would hold the entry is not there. -/
  | parentMissing
  /-- The bytes are not UTF-8. -/
  | notText
  /-- A component of the path is not there. -/
  | notFound
  /-- The path leads to a directory. -/
  | isDirectory
  /-- The path goes on below a file. -/
  | notDirectory
  /-- A file stands where a directory is wanted. -/
  | alreadyExists
  /-- A cause with a text of its own. -/
  | other (text : String)
deriving DecidableEq, Repr, Inhabited

namespace FileError

def message : FileError → String
  | missing key => key ++ " does not exist"
  | notAFile =>
    "An error occured for 'PATH NOT FILLED BY VFS LAYER': FileSystem error: Not a file"
  | parentMissing =>
    "An error occured for 'PATH NOT FILLED BY VFS LAYER': FileSystem error: " ++
      "Parent path does not exist"
  | notText => "stream did not contain valid UTF-8"
  | notFound => "No such file or directory (os error 2)"
  | isDirectory => "Is a directory (os error 21)"
  | notDirectory => "Not a directory (os error 20)"
  | alreadyExists => "File exists (os error 17)"
  | other text => text

end FileError

/-- The part of a store that discovery sees. -/
structure Files where
  isFile : Path → Bool
  read : Path → Except FileError String

/-- A store of files with values in `σ`. -/
class FileStore (σ : Type) where
  isFile : σ → Path → Bool
  read : σ → Path → Except FileError String
  /-- Writes a file and creates the directories above it; a refused write may leave some of
  them behind. -/
  write : σ → Path → ByteArray → Except FileError Unit × σ

def FileStore.files [FileStore σ] (store : σ) : Files :=
  ⟨FileStore.isFile store, FileStore.read store⟩

def decodeText (bytes : ByteArray) : Except FileError String :=
  match String.fromUTF8? bytes with
  | some text => .ok text
  | none => .error .notText

end ModuleBundler
