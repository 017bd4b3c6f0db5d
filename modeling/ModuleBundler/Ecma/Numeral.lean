import ModuleBundler.Ecma.Name
import ModuleBundler.Text.Hex

namespace ModuleBundler.Ecma

/-- What is left after one or more digits, between which single low lines may stand. -/
def afterDigits (isDigit : Char → Bool) : List Char → Option (List Char)
  | [] => none
  | c :: '_' :: cs => if isDigit c then afterDigits isDigit cs else none
  | c :: d :: cs =>
    if isDigit c then if isDigit d then afterDigits isDigit (d :: cs) else some (d :: cs) else none
  | [c] => if isDigit c then some [] else none

def afterExponent : List Char → Option (List Char)
  | '+' :: cs => afterDigits Char.isDigit cs
  | '-' :: cs => afterDigits Char.isDigit cs
  | cs => afterDigits Char.isDigit cs

/-- What is left after an exponent, if there is one. -/
def afterOptionalExponent : List Char → Option (List Char)
  | 'e' :: cs => afterExponent cs
  | 'E' :: cs => afterExponent cs
  | cs => some cs

/-- What is left after the places behind a point and an exponent, both optional. -/
def afterPoint (cs : List Char) : Option (List Char) :=
  if cs.head?.any Char.isDigit then (afterDigits Char.isDigit cs).bind afterOptionalExponent
  else afterOptionalExponent cs

/-- What is left after the mark of a large integer, if there is one. -/
def afterLargeMark : List Char → List Char
  | 'n' :: cs => cs
  | cs => cs

def afterDecimal (cs : List Char) : Option (List Char) :=
  match afterDigits Char.isDigit cs with
  | some ('.' :: rest) => afterPoint rest
  | some ('n' :: rest) => some rest
  | some rest => afterOptionalExponent rest
  | none => none

/-- What is left after a number whose first digit is a zero before other digits. It is one in base
8 unless a digit says otherwise. -/
def afterLeadingZero (cs : List Char) : Option (List Char) :=
  let rest := cs.dropWhile Char.isDigit
  if (cs.takeWhile Char.isDigit).any ('7' < ·) then
    match rest with
    | '.' :: rest => afterPoint rest
    | 'e' :: rest => afterExponent rest
    | rest => some rest
  else some rest

/-- What is left after a number, whatever follows. -/
def afterNumber : List Char → Option (List Char)
  | '.' :: cs => afterPoint cs
  | '0' :: c :: cs =>
    if c = 'x' ∨ c = 'X' then
      (afterDigits (fun d => (Text.hexValue? d).isSome) cs).map afterLargeMark
    else if c = 'o' ∨ c = 'O' then
      (afterDigits (fun d => '0' ≤ d && d ≤ '7') cs).map afterLargeMark
    else if c = 'b' ∨ c = 'B' then
      (afterDigits (fun d => d = '0' || d = '1') cs).map afterLargeMark
    else if c.isDigit then afterLeadingZero (c :: cs)
    else if c = '_' then none
    else afterDecimal ('0' :: c :: cs)
  | cs => afterDecimal cs

/-- What is left after a number literal. Neither a digit nor a name may follow at once. -/
def afterNumeral (cs : List Char) : Option (List Char) :=
  match afterNumber cs with
  | some (c :: rest) => if isNameStart c || c.isDigit then none else some (c :: rest)
  | result => result

end ModuleBundler.Ecma
