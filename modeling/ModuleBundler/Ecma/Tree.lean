namespace ModuleBundler.Ecma

/-- How a part of a text that is neither a literal nor a call is made of others. -/
inductive Shape where
  /-- Anything not named below. -/
  | group
  /-- A property of an object: it can be assigned to. -/
  | place
  | paren
  /-- A value under another type, with the type behind it. -/
  | cast
  /-- A value with type arguments, with them behind it. -/
  | instantiation
  /-- A target and the value assigned to it. -/
  | assign
  | array (trailingComma : Bool)
  | object (trailingComma : Bool)
  | hole
  | spread
  /-- What a computed key is computed from, or nothing. -/
  | key
  /-- A key with a value in an object. -/
  | property
  /-- A name in braces with a value in case there is none. Only a target may hold it. -/
  | fallback
  /-- A value that a pattern holds in case there is none. -/
  | standby
  /-- An operation by `&&` or `||`. -/
  | logical
  /-- An operation by `??`. -/
  | coalesce
deriving DecidableEq, Repr

/-- A part of a text with its own parts, in source order, reduced to what matters for the specifiers
in it. -/
inductive Node where
  | name (text : String)
  | string (value : String)
  /-- The specifier of an import or a re-export of values. -/
  | request (specifier : String)
  /-- A name under which the module exports something. -/
  | exported (text : String)
  | call (callee types : Node) (arguments : List Node)
  | compound (shape : Shape) (parts : List Node)
deriving Inhabited

namespace Node

def group (parts : List Node) : Node := .compound .group parts

def leaf : Node := group []

/-- The request that a call makes: a call of `require` whose one argument is a string. -/
def requested? : Node → List Node → Option String
  | .name "require", [.string value] => some value
  | _, _ => none

mutual

/-- The specifiers that a part holds, in source order, before those in `later`. -/
def specifiersBefore (later : List String) : Node → List String
  | .request specifier => specifier :: later
  | .call callee types arguments =>
    let inner :=
      specifiersBefore (specifiersBefore (listSpecifiersBefore later arguments) types) callee
    match requested? callee arguments with
    | some specifier => specifier :: inner
    | none => inner
  | .compound _ parts => listSpecifiersBefore later parts
  | _ => later

/-- The specifiers that the parts hold, in source order, before those in `later`. -/
def listSpecifiersBefore (later : List String) : List Node → List String
  | [] => later
  | n :: ns => specifiersBefore (listSpecifiersBefore later ns) n

end

/-- The specifiers that a part holds, in source order. -/
def specifiers (n : Node) : List String := specifiersBefore [] n

mutual

/-- Whether all names in braces with a value are held by targets. -/
def isComplete : Node → Bool
  | .compound shape parts => shape != .fallback && listIsComplete parts
  | .call callee types arguments =>
    isComplete callee && isComplete types && listIsComplete arguments
  | _ => true

def listIsComplete : List Node → Bool
  | [] => true
  | n :: ns => isComplete n && listIsComplete ns

end

mutual

/-- The names under which a part exports something, before those in `later`. -/
def exportsBefore (later : List String) : Node → List String
  | .exported text => text :: later
  | .compound _ parts => listExportsBefore later parts
  | _ => later

/-- The names under which the parts export something, before those in `later`. -/
def listExportsBefore (later : List String) : List Node → List String
  | [] => later
  | n :: ns => exportsBefore (listExportsBefore later ns) n

end

mutual

def boundNames : Node → List String
  | .name text => [text]
  | .compound shape parts => if shape = .key ∨ shape = .standby then [] else listBoundNames parts
  | _ => []

def listBoundNames : List Node → List String
  | [] => []
  | n :: ns => boundNames n ++ listBoundNames ns

end

/-- Whether something other than a pattern can be assigned to the node. -/
def isSimpleTarget : Node → Bool
  | .name _ => true
  | .compound .place _ => true
  | .compound .paren [inner] => isSimpleTarget inner
  | .compound .cast (inner :: _) => isSimpleTarget inner
  | _ => false

/-- Whether only the last element, and nothing after it, takes the remaining ones. -/
def spreadsLast (trailingComma : Bool) : List Node → Bool
  | [] => true
  | [.compound .spread _] => !trailingComma
  | .compound .spread _ :: _ => false
  | _ :: ns => spreadsLast trailingComma ns

mutual

/-- The node as a target, if it can be one. An element of a pattern can be more. -/
def target? (element : Bool) : Node → Option Node
  | .name text => some (.name text)
  | .compound shape parts =>
    match shape with
    | .place => some (.compound .place parts)
    | .paren | .cast =>
      if isSimpleTarget (.compound shape parts) then some (.compound shape parts) else none
    | .array trailingComma | .object trailingComma =>
      if spreadsLast trailingComma parts then (targets? true parts).map group else none
    | .hole => if element then some leaf else none
    | .key => if element then some (.compound .key parts) else none
    | .property => if element then (targets? true parts).map group else none
    | .assign => if element then some (group parts) else none
    | .fallback => if element then some (group parts) else none
    | .spread => if element then (targets? false parts).map group else none
    | _ => none
  | _ => none

/-- The nodes as targets, if all of them can be one. -/
def targets? (element : Bool) : List Node → Option (List Node)
  | [] => some []
  | n :: ns =>
    match target? element n, targets? element ns with
    | some t, some ts => some (t :: ts)
    | _, _ => none

end

end Node

end ModuleBundler.Ecma
