import ModuleBundler.Ecma.Name
import ModuleBundler.Ecma.StringValue

namespace ModuleBundler.Ecma

/-- Reads a name with escapes, after the characters in `seen`, last one first. -/
def readName (seen : List Char) : EscapeState → List Char → Option (List Char × List Char)
  | .plain, [] => some (seen.reverse, [])
  | _, [] => none
  | .plain, c :: cs =>
    if isNamePart c then readName (c :: seen) .plain cs
    else if c = '\\' then readName seen .backslash cs
    else some (seen.reverse, c :: cs)
  | .backslash, c :: cs => if c = 'u' then readName seen .unicode cs else none
  | state, c :: cs =>
    match escapeStep '\\' state c with
    | .go [value] next =>
      if isNamePart (Char.ofNat value) then readName (Char.ofNat value :: seen) next cs else none
    | .go _ next => readName seen next cs
    | _ => none

/-- A word as it stands in a text. -/
structure Word where
  text : String
  /-- Whether it is written with escapes. -/
  escaped : Bool
deriving DecidableEq, Repr

def word? (cs : List Char) : Option (Word × List Char) :=
  let plain := cs.takeWhile isNamePart
  let rest := cs.dropWhile isNamePart
  if rest.head? = some '\\' then
    match readName [] .plain cs with
    | some (c :: name, rest) =>
      if isNameStart c then some (⟨String.ofList (c :: name), true⟩, rest) else none
    | _ => none
  else if plain.head?.any isNameStart then some (⟨String.ofList plain, false⟩, rest)
  else none

end ModuleBundler.Ecma
