import ModuleBundler.Path.Name

namespace ModuleBundler.Ecma

/-- The kind of text to read. -/
structure Dialect where
  /-- With types. -/
  typed : Bool := false
  /-- With elements in angle brackets. -/
  jsx : Bool := false
  /-- Declarations without implementations. -/
  ambient : Bool := false
  /-- A script, not a module. -/
  script : Bool := false
deriving DecidableEq, Repr, Inhabited

namespace Dialect

/-- The parts of a name between dots, last part first. -/
def dotParts (name : List Char) : List (List Char) :=
  (Text.split '.' name).reverse

/-- The dialect of a file by its last name; a name without a known extension holds a module
without types. -/
def ofName (name : List Char) : Dialect :=
  let (_, extension) := Path.cutAtDot name
  let inner := (dotParts name).drop 1
  let d := ['d']
  match extension.map String.ofList with
  | some "cjs" => { script := true }
  | some "jsx" => { jsx := true }
  | some "ts" => { typed := true, ambient := (inner.take 2).contains d }
  | some "mts" => { typed := true, ambient := (inner.take 1).contains d }
  | some "cts" => { typed := true, script := true, ambient := (inner.take 1).contains d }
  | some "tsx" => { typed := true, jsx := true }
  | _ => {}

def ofPath (p : Path) : Dialect :=
  match p.fileName? with
  | some name => ofName name
  | none => {}

end Dialect

end ModuleBundler.Ecma
