import ModuleBundler.Text.Hex

namespace ModuleBundler.Ecma

def unicodeEscape (n : Nat) : List Char := '\\' :: 'u' :: Text.fourHexDigits n

/-- One character inside a literal. Controls below the space and the two line separators of
Unicode never stand for themselves. -/
def escapeChar (c : Char) : List Char :=
  if c = '\x22' then ['\\', '\x22']
  else if c = '\\' then ['\\', '\\']
  else if c = '\x08' then ['\\', 'b']
  else if c = '\x0c' then ['\\', 'f']
  else if c = '\n' then ['\\', 'n']
  else if c = '\r' then ['\\', 'r']
  else if c = '\t' then ['\\', 't']
  else if c.toNat < 0x20 || c = '\u2028' || c = '\u2029' then unicodeEscape c.toNat
  else [c]

def literalChars (cs : List Char) : List Char := '\x22' :: cs.flatMap escapeChar ++ ['\x22']

/-- The text in double quotes, printable on one line of any script. -/
def literal (s : String) : String := String.ofList (literalChars s.toList)

end ModuleBundler.Ecma
