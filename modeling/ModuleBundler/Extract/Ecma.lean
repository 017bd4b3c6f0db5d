import ModuleBundler.Ecma.Grammar.Whole
import ModuleBundler.Extract.Basic

namespace ModuleBundler.Extract

open ModuleBundler.Ecma (Dialect Node tree?)

/-- The tree of a text as a module or, where it is none, as a script. -/
def moduleTree? (d : Dialect) (cs : List Char) : Option Node :=
  (tree? d cs).or (tree? { d with script := true } cs)

/-- The specifiers of imports, re-exports and calls of `require` in the text of a module. -/
def ecma : Extractor := fun source path =>
  match moduleTree? (Dialect.ofPath path) source.toList with
  | some node => .ok node.specifiers
  | none => .error "Failed to parse: the text does not follow the grammar"

end ModuleBundler.Extract
