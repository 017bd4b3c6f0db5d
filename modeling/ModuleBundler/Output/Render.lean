import ModuleBundler.Ecma.StringLiteral
import ModuleBundler.Graph.Basic
import ModuleBundler.Output.Loader
import ModuleBundler.Path.Normal

namespace ModuleBundler.Output

def commentChar (c : Char) : List Char :=
  if c = '\r' then ['\\', 'r']
  else if c = '\n' then ['\\', 'n']
  else if c = '\u2028' then "\\u2028".toList
  else if c = '\u2029' then "\\u2029".toList
  else [c]

/-- The text with its line ends spelled out, so that it fits in a line comment. -/
def commentText (s : String) : String := String.ofList (s.toList.flatMap commentChar)

/-- The text of a module inside a function, where a first line that names an interpreter has to
become a comment. -/
def factoryBody (source : String) : String :=
  if ['#', '!'].isPrefixOf source.toList then "//" ++ source else source

/-- A specifier as a key of an object literal. A plain key `__proto__` would set the prototype
instead of a property. -/
def mapKey (specifier : String) : String :=
  if specifier = "__proto__" then "[" ++ Ecma.literal specifier ++ "]" else Ecma.literal specifier

/-- The entry of a specifier in an object literal. -/
def mapEntry (e : String × Nat) : String := mapKey e.1 ++ ":" ++ toString e.2

/-- A dependency map as an object literal, in its own order. -/
def mapLiteral (d : DependencyMap) : String :=
  "\x7b" ++ ",".intercalate (d.entries.map mapEntry) ++ "\x7d"

/-- A row of the table: a comment with the name of the module, its number, a function around its
text, and its dependency map. -/
def row (cwd : Path) (a : Asset) : String :=
  "// " ++ commentText (a.path.stable cwd) ++ "\n" ++ toString a.index ++ ": [" ++
    factoryOpening ++ "\n" ++ factoryBody a.source ++ "\n\x7d, " ++ mapLiteral a.dependencies ++
    "],"

def joinLines (parts : List String) : String := "\n".intercalate parts

end ModuleBundler.Output

namespace ModuleBundler.AssetGraph

/-- The loader, and then a table with a row for each module. -/
def bundleText (g : AssetGraph) (cwd : Path) (name : Option String) : String :=
  let opening := match name with
    | some name => "var " ++ name ++ " = " ++ Output.loader
    | none => Output.loader
  Output.joinLines (
    [opening, "  return load(" ++ toString g.entry ++ ");\n\x7d)(\x7b"] ++
    g.assets.toList.map (Output.row cwd) ++ ["\x7d);\n"])

/-- The bundle of a graph, which has to be closed. -/
def generate (g : AssetGraph) (cwd : Path) (name : Option String) : Except BuildError String :=
  match g.validate with
  | .error e => .error e
  | .ok () => .ok (g.bundleText cwd name)

end ModuleBundler.AssetGraph
