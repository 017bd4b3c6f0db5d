import ModuleBundler.Ecma.StringValue

namespace ModuleBundler.Ecma

/-- What is left after the body of a regular expression and its closing slash. Inside brackets,
and after a backslash, a slash does not close it. -/
def afterPattern (bracket escaped : Bool) : List Char → Option (List Char)
  | [] => none
  | c :: cs =>
    if isLineEnd c then none
    else if escaped then afterPattern bracket false cs
    else if c = '\\' then afterPattern bracket true cs
    else if c = '[' then afterPattern true false cs
    else if c = ']' then afterPattern false false cs
    else if c = '/' ∧ !bracket then some cs
    else afterPattern bracket false cs

/-- Whether the character belongs to the flags, known or not. -/
def isFlagChar (c : Char) : Bool := c.isAlphanum || c = '$' || c = '_'

def knownFlags : List Char := ['d', 'g', 'i', 'm', 's', 'u', 'v', 'y']

/-- What is left after a regular expression whose first slash is read. Each flag is known and
comes once. -/
def afterRegularExpression (cs : List Char) : Option (List Char) := do
  let rest ← afterPattern false false cs
  let flags := rest.takeWhile isFlagChar
  if flags.all knownFlags.contains && decide flags.Nodup then some (rest.dropWhile isFlagChar)
  else none

end ModuleBundler.Ecma
