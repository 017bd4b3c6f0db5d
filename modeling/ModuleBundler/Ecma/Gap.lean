import ModuleBundler.Ecma.StringValue
import ModuleBundler.Text.Blank
import ModuleBundler.Text.Start

namespace ModuleBundler.Ecma

open Text (isBlank stripStart)

def isGapChar (c : Char) : Bool := isBlank c || c = '\ufeff' || c = '\u200b'

/-- Where a reader of gaps stands. -/
inductive GapState where
  | blank
  /-- In a comment up to the end of its line. -/
  | line
  /-- At the star that opens a comment. -/
  | opening
  /-- In a comment up to a star and a slash. -/
  | block
  /-- At the slash that closes a comment. -/
  | closing
deriving DecidableEq, Repr

/-- Whether a comment up to the end of its line starts here. Scripts have two more forms, one of
them only as the first thing on a line. -/
def opensLineComment (script onNewLine : Bool) (cs : List Char) : Bool :=
  (stripStart ['/', '/'] cs).isSome ||
    script && ((stripStart ['<', '!', '-', '-'] cs).isSome ||
      onNewLine && (stripStart ['-', '-', '>'] cs).isSome)

/-- Skips a gap; says whether it holds a line end. Fails on a comment that is not closed. -/
def skipGap (script : Bool) : GapState → Bool → List Char → Option (Bool × List Char)
  | .opening, _, [] => none
  | .block, _, [] => none
  | .closing, _, [] => none
  | .blank, onNewLine, [] => some (onNewLine, [])
  | .line, onNewLine, [] => some (onNewLine, [])
  | .blank, onNewLine, c :: cs =>
    if isLineEnd c then skipGap script .blank true cs
    else if isGapChar c then skipGap script .blank onNewLine cs
    else if opensLineComment script onNewLine (c :: cs) then skipGap script .line onNewLine cs
    else if c = '/' ∧ cs.head? = some '*' then skipGap script .opening onNewLine cs
    else some (onNewLine, c :: cs)
  | .line, onNewLine, c :: cs =>
    if isLineEnd c then skipGap script .blank true cs else skipGap script .line onNewLine cs
  | .opening, onNewLine, _ :: cs => skipGap script .block onNewLine cs
  | .block, onNewLine, c :: cs =>
    if c = '*' ∧ cs.head? = some '/' then skipGap script .closing onNewLine cs
    else skipGap script .block (onNewLine || isLineEnd c) cs
  | .closing, onNewLine, _ :: cs => skipGap script .blank onNewLine cs

end ModuleBundler.Ecma
