import ModuleBundler.Text.Hex

namespace ModuleBundler.Ecma

open Text (hexValue? fourHexDigits)

def isLineEnd (c : Char) : Bool := c = '\n' || c = '\r' || c = '\u2028' || c = '\u2029'

def isOctal (c : Char) : Bool := '0' ≤ c && c ≤ '7'

/-- The character that a backslash and `c` stand for, if that is all there is to the escape. -/
def simpleEscape (c : Char) : Char :=
  if c = 'b' then '\x08'
  else if c = 't' then '\t'
  else if c = 'n' then '\n'
  else if c = 'v' then '\x0b'
  else if c = 'f' then '\x0c'
  else if c = 'r' then '\r'
  else c

/-- Where a reader of escapes stands. -/
inductive EscapeState where
  /-- Outside an escape. -/
  | plain
  /-- After a backslash. -/
  | backslash
  /-- After a backslash and a return: a line feed would still belong to them. -/
  | lineEnd
  /-- After the letter of an escape by code point. -/
  | unicode
  /-- With that many digits of an escape to come. -/
  | digits (left value : Nat)
  /-- Inside braces. -/
  | braces (any : Bool) (value : Nat)
  /-- Inside an escape in base 8 to which that many digits may still belong. -/
  | octal (left value : Nat)
deriving DecidableEq, Repr

/-- What one more character of a literal does: it may complete code points, of which surrogates
stand for themselves. -/
inductive EscapeStep where
  | go (values : List Nat) (state : EscapeState)
  | close (values : List Nat)
  | malformed
deriving DecidableEq, Repr

def plainStep (quote c : Char) : EscapeStep :=
  if c = quote then .close []
  else if c = '\\' then .go [] .backslash
  else if c = '\n' ∨ c = '\r' then .malformed
  else .go [c.toNat] .plain

def EscapeStep.after (value : Nat) : EscapeStep → EscapeStep
  | .go values state => .go (value :: values) state
  | .close values => .close (value :: values)
  | .malformed => .malformed

def backslashStep (c : Char) : EscapeStep :=
  if c = 'x' then .go [] (.digits 2 0)
  else if c = 'u' then .go [] .unicode
  else if c = '\r' then .go [] .lineEnd
  else if isLineEnd c then .go [] .plain
  else if isOctal c then .go [] (.octal (if c ≤ '3' then 2 else 1) (c.toNat - 48))
  else .go [(simpleEscape c).toNat] .plain

def escapeStep (quote : Char) : EscapeState → Char → EscapeStep
  | .plain, c => plainStep quote c
  | .backslash, c => backslashStep c
  | .lineEnd, c => if c = '\n' then .go [] .plain else plainStep quote c
  | .unicode, c =>
    if c = '\x7b' then .go [] (.braces false 0)
    else match hexValue? c with
      | some d => .go [] (.digits 3 d)
      | none => .malformed
  | .digits left value, c =>
    match hexValue? c with
    | none => .malformed
    | some d =>
      if left ≤ 1 then .go [16 * value + d] .plain else .go [] (.digits (left - 1) (16 * value + d))
  | .braces any value, c =>
    if c = '\x7d' then if any then .go [value] .plain else .malformed
    else match hexValue? c with
      | some d =>
        if 16 * value + d < 0x110000 then .go [] (.braces true (16 * value + d)) else .malformed
      | none => .malformed
  | .octal left value, c =>
    if left ≠ 0 ∧ isOctal c then .go [] (.octal (left - 1) (8 * value + (c.toNat - 48)))
    else (plainStep quote c).after value

/-- Reads code points up to the closing quote, after those in `seen`, last one first. The text
after the quote is left. -/
def readCodes (quote : Char) (seen : List Nat) :
    EscapeState → List Char → Option (List Nat × List Char)
  | _, [] => none
  | state, c :: cs =>
    match escapeStep quote state c with
    | .malformed => none
    | .close values => some (values.reverse ++ seen, cs)
    | .go values next => readCodes quote (values.reverse ++ seen) next cs

def isHighHalf (n : Nat) : Bool := 0xd800 ≤ n && n < 0xdc00

def isLowHalf (n : Nat) : Bool := 0xdc00 ≤ n && n < 0xe000

/-- Joins the halves of pairs. The codes come last one first and are put in front of `joined`. -/
def joinHalves (joined : List Nat) : List Nat → List Nat
  | [] => joined
  | n :: ns =>
    match joined with
    | low :: after =>
      if isHighHalf n && isLowHalf low then
        joinHalves ((0x10000 + (n - 0xd800) * 0x400 + (low - 0xdc00)) :: after) ns
      else joinHalves (n :: low :: after) ns
    | [] => joinHalves [n] ns

/-- The text of code points. Only if one of them is half a pair, then it and the replacement
character are written as the replacement character and four digits. -/
def textOfCodes (codes : List Nat) : String :=
  let spelled (n : Nat) : Bool := isHighHalf n || isLowHalf n
  if codes.any spelled then
    String.ofList (codes.flatMap fun n =>
      if spelled n || n = 0xfffd then '\ufffd' :: fourHexDigits n else [Char.ofNat n])
  else String.ofList (codes.map Char.ofNat)

/-- The value of a string literal, read from behind its opening quote, and the text after its
closing quote. -/
def stringValue? (quote : Char) (cs : List Char) : Option (String × List Char) :=
  (readCodes quote [] .plain cs).map fun (codes, rest) => (textOfCodes (joinHalves [] codes), rest)

end ModuleBundler.Ecma
