import ModuleBundler.Ecma.Token

namespace ModuleBundler.Ecma

/-- A place in a text. -/
structure Cursor where
  token : Token
  /-- The text after the token. -/
  rest : List Char
deriving DecidableEq, Repr

namespace Cursor

/-- The place at the front of a text that does not start with a gap. -/
def here (onNewLine : Bool) (cs : List Char) : Cursor :=
  let (kind, rest) := scan cs
  ⟨⟨kind, onNewLine, cs⟩, rest⟩

/-- The place of the first token of a text that a token, a line end or nothing comes before. -/
def ofText (script onNewLine : Bool) (cs : List Char) : Cursor :=
  match skipGap script .blank onNewLine cs with
  | some (onNewLine, cs) => here onNewLine cs
  | none => ⟨⟨.invalid, onNewLine, cs⟩, []⟩

def next (script : Bool) (cursor : Cursor) : Cursor := ofText script false cursor.rest

/-- A first line after a hash sign and an exclamation mark is for the system that runs the
text. -/
def skipFirstLine : List Char → List Char
  | '#' :: '!' :: cs => cs.dropWhile fun c => !isLineEnd c
  | cs => cs

def first (script : Bool) (cs : List Char) : Cursor := ofText script true (skipFirstLine cs)

end Cursor

end ModuleBundler.Ecma
