import ModuleBundler.Extract.Basic
import ModuleBundler.Text.Blank
import ModuleBundler.Text.Start

namespace ModuleBundler.Extract

open Text (stripStart trimChars)

/-- The lines of a text. A return just before a line end belongs to it; a lone return does not
end a line. -/
def splitLines : List Char → List (List Char)
  | [] => [[]]
  | '\n' :: cs => [] :: splitLines cs
  | '\r' :: '\n' :: cs => [] :: splitLines cs
  | c :: cs =>
    match splitLines cs with
    | [] => [[c]]
    | line :: lines => (c :: line) :: lines

/-- What a line stands for. -/
inductive Line where
  | specifier (text : String)
  | failure (text : String)
  | other
deriving DecidableEq, Repr

def readLine (cs : List Char) : Line :=
  match stripStart "fail ".toList cs with
  | some rest => .failure (String.ofList (trimChars rest))
  | none =>
    match stripStart "import ".toList cs with
    | some rest => .specifier (String.ofList (trimChars rest))
    | none => .other

def collect : List Line → Except String (List String)
  | [] => .ok []
  | .failure text :: _ => .error text
  | .other :: lines => collect lines
  | .specifier text :: lines =>
    match collect lines with
    | .ok specifiers => .ok (text :: specifiers)
    | .error e => .error e

/-- The specifiers of a text in a plain format: a line `import x` stands for the specifier `x`, a
line `fail x` for a failure with the text `x`, and all other lines for nothing. -/
def lines : Extractor := fun source _ => collect ((splitLines source.toList).map readLine)

end ModuleBundler.Extract
