import ModuleBundler.Ecma.Gap
import ModuleBundler.Ecma.Numeral
import ModuleBundler.Ecma.Template
import ModuleBundler.Ecma.Word

namespace ModuleBundler.Ecma

/-- A punctuator. Of those that begin with `>` only the sign itself is one: the grammar puts the
others together, because `>` also closes lists of types and tags. -/
inductive Mark where
  | openParen | closeParen | openBracket | closeBracket | openBrace | closeBrace
  | semicolon | comma | dot | ellipsis | colon | question | chain | arrow | decorator
  | assign
  /-- An operator that computes and assigns, other than by a quotient or a left shift. -/
  | update
  | slashAssign
  | less | greater | lessEqual | shiftLeft | shiftLeftAssign
  /-- One of `==`, `!=`, `===` and `!==`. -/
  | equality
  | plus | minus | star | power | slash | percent
  | increment | decrement
  | ampersand | bar | caret | tilde | bang
  | and | or | coalesce
deriving DecidableEq, Repr, Inhabited

/-- The punctuator at the front, the longest that fits, and what follows it. -/
def mark? : List Char → Option (Mark × List Char)
  | '(' :: cs => some (.openParen, cs)
  | ')' :: cs => some (.closeParen, cs)
  | '[' :: cs => some (.openBracket, cs)
  | ']' :: cs => some (.closeBracket, cs)
  | '\x7b' :: cs => some (.openBrace, cs)
  | '\x7d' :: cs => some (.closeBrace, cs)
  | ';' :: cs => some (.semicolon, cs)
  | ',' :: cs => some (.comma, cs)
  | '.' :: '.' :: '.' :: cs => some (.ellipsis, cs)
  | '.' :: cs => some (.dot, cs)
  | ':' :: cs => some (.colon, cs)
  | '?' :: '?' :: '=' :: cs => some (.update, cs)
  | '?' :: '?' :: cs => some (.coalesce, cs)
  | '?' :: '.' :: cs =>
    if cs.head?.any Char.isDigit then some (.question, '.' :: cs) else some (.chain, cs)
  | '?' :: cs => some (.question, cs)
  | '@' :: cs => some (.decorator, cs)
  | '=' :: '=' :: '=' :: cs => some (.equality, cs)
  | '=' :: '=' :: cs => some (.equality, cs)
  | '=' :: '>' :: cs => some (.arrow, cs)
  | '=' :: cs => some (.assign, cs)
  | '!' :: '=' :: '=' :: cs => some (.equality, cs)
  | '!' :: '=' :: cs => some (.equality, cs)
  | '!' :: cs => some (.bang, cs)
  | '<' :: '<' :: '=' :: cs => some (.shiftLeftAssign, cs)
  | '<' :: '<' :: cs => some (.shiftLeft, cs)
  | '<' :: '=' :: cs => some (.lessEqual, cs)
  | '<' :: cs => some (.less, cs)
  | '>' :: cs => some (.greater, cs)
  | '+' :: '+' :: cs => some (.increment, cs)
  | '+' :: '=' :: cs => some (.update, cs)
  | '+' :: cs => some (.plus, cs)
  | '-' :: '-' :: cs => some (.decrement, cs)
  | '-' :: '=' :: cs => some (.update, cs)
  | '-' :: cs => some (.minus, cs)
  | '*' :: '*' :: '=' :: cs => some (.update, cs)
  | '*' :: '*' :: cs => some (.power, cs)
  | '*' :: '=' :: cs => some (.update, cs)
  | '*' :: cs => some (.star, cs)
  | '/' :: '=' :: cs => some (.slashAssign, cs)
  | '/' :: cs => some (.slash, cs)
  | '%' :: '=' :: cs => some (.update, cs)
  | '%' :: cs => some (.percent, cs)
  | '&' :: '&' :: '=' :: cs => some (.update, cs)
  | '&' :: '&' :: cs => some (.and, cs)
  | '&' :: '=' :: cs => some (.update, cs)
  | '&' :: cs => some (.ampersand, cs)
  | '|' :: '|' :: '=' :: cs => some (.update, cs)
  | '|' :: '|' :: cs => some (.or, cs)
  | '|' :: '=' :: cs => some (.update, cs)
  | '|' :: cs => some (.bar, cs)
  | '^' :: '=' :: cs => some (.update, cs)
  | '^' :: cs => some (.caret, cs)
  | '~' :: cs => some (.tilde, cs)
  | _ => none

/-- What a token is. -/
inductive Kind where
  /-- A name or a keyword. -/
  | word (w : Word)
  /-- A name after a hash sign. -/
  | privateName (w : Word)
  | string (value : String)
  | number
  | template (part : TemplatePart)
  | mark (m : Mark)
  | ending
  /-- Nothing that could be a token. -/
  | invalid
deriving DecidableEq, Repr

/-- The token at the front of a text that does not start with a gap, and what follows it. -/
def scan (cs : List Char) : Kind × List Char :=
  match cs with
  | [] => (.ending, [])
  | c :: rest =>
    if c = '\x22' ∨ c = '\x27' then
      match stringValue? c rest with
      | some (value, rest) => (.string value, rest)
      | none => (.invalid, rest)
    else if isNameStart c ∨ c = '\\' then
      match word? cs with
      | some (w, rest) => (.word w, rest)
      | none => (.invalid, rest)
    else if c.isDigit ∨ (c = '.' ∧ rest.head?.any Char.isDigit) then
      match afterNumeral cs with
      | some rest => (.number, rest)
      | none => (.invalid, rest)
    else if c = '\x60' then
      match readTemplate true .plain rest with
      | some (part, rest) => (.template part, rest)
      | none => (.invalid, rest)
    else if c = '#' then
      match word? rest with
      | some (w, rest) => (.privateName w, rest)
      | none => (.invalid, rest)
    else
      match mark? cs with
      | some (m, rest) => (.mark m, rest)
      | none => (.invalid, rest)

/-- A token and how it stands in the text. -/
structure Token where
  kind : Kind
  /-- Whether a line end stands between the token before and this one. -/
  onNewLine : Bool
  /-- The text from the token on. -/
  start : List Char
deriving DecidableEq, Repr

namespace Token

def isMark (t : Token) (m : Mark) : Bool := t.kind = .mark m

/-- Whether the token is the given keyword. One with escapes is none. -/
def isWord (t : Token) (text : String) : Bool := t.kind = .word ⟨text, false⟩

def isWordOf (t : Token) (texts : List String) : Bool :=
  match t.kind with
  | .word ⟨text, false⟩ => texts.contains text
  | _ => false

def isAnyWord (t : Token) : Bool :=
  match t.kind with
  | .word _ => true
  | _ => false

def isString (t : Token) : Bool :=
  match t.kind with
  | .string _ => true
  | _ => false

def isTemplate (t : Token) : Bool :=
  match t.kind with
  | .template _ => true
  | _ => false

def isReserved (text : String) : Bool :=
  ["break", "case", "catch", "class", "const", "continue", "debugger", "default", "delete", "do",
    "else", "enum", "export", "extends", "false", "finally", "for", "function", "if", "import",
    "in", "instanceof", "new", "null", "return", "super", "switch", "this", "throw", "true",
    "try", "typeof", "var", "void", "while", "with"].contains text

def isName (t : Token) : Bool :=
  match t.kind with
  | .word w => !isReserved w.text
  | _ => false

/-- Whether a property may start with the token: a name, a literal or an opening bracket. -/
def startsKey (t : Token) : Bool :=
  match t.kind with
  | .word _ | .privateName _ | .string _ | .number => true
  | .mark .openBracket => true
  | _ => false

/-- Whether a statement may end before the token without a semicolon of its own. -/
def mayEnd (t : Token) : Bool :=
  t.onNewLine || t.isMark .closeBrace || t.kind = .ending

end Token

end ModuleBundler.Ecma
