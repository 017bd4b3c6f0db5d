import ModuleBundler.Text.IdentifierTables
import ModuleBundler.Text.Ranges

namespace ModuleBundler.Ecma

open Text (inRanges identifierStartRanges identifierPartRanges)

def isNameStart (c : Char) : Bool :=
  c.isAlpha || c = '$' || c = '_' || (0x80 ≤ c.toNat && inRanges identifierStartRanges c)

/-- Whether an identifier may go on with the character. The joiners of Unicode are allowed. -/
def isNamePart (c : Char) : Bool :=
  isNameStart c || c.isDigit || c = '\u200c' || c = '\u200d' ||
    (0x80 ≤ c.toNat && inRanges identifierPartRanges c)

def isIdentifierName : List Char → Bool
  | [] => false
  | c :: cs => isNameStart c && cs.all isNamePart

def reservedWords : List String := [
  "await", "break", "case", "catch", "class", "const", "continue", "debugger", "default",
  "delete", "do", "else", "enum", "export", "extends", "false", "finally", "for", "function",
  "if", "implements", "import", "in", "instanceof", "interface", "let", "new", "null",
  "package", "private", "protected", "public", "return", "static", "super", "switch", "this",
  "throw", "true", "try", "typeof", "var", "void", "while", "with", "yield"]

def isBindingName (name : String) : Bool :=
  isIdentifierName name.toList && !reservedWords.contains name

theorem isNamePart_of_isNameStart {c : Char} (h : isNameStart c = true) :
    isNamePart c = true := by
  simp [isNamePart, h]

end ModuleBundler.Ecma
