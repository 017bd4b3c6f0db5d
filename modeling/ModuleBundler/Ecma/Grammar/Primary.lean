import ModuleBundler.Ecma.Grammar.Class
import ModuleBundler.Ecma.Grammar.Literal

namespace ModuleBundler.Ecma.Grammar

open Reader

def startsFunction : Reader Bool := do
  let t ← token
  let next ← nextToken
  return t.isWord "function" ||
    t.isWord "async" && next.isWord "function" && !next.onNewLine

def classExpression (g : Grammar) : Reader Node := do
  let marks ← decorators g
  return Node.group (marks ++ [(← classText g).node])

def wordValue (g : Grammar) : Reader Node := do
  let t ← token
  if ← startsFunction then functionExpression g
  else if t.isWord "class" then classExpression g
  else if t.isWord "new" then newExpression g
  else if t.isWord "import" then importExpression g
  else if t.isWordOf ["this", "null", "true", "false"] then
    advance
    return Node.leaf
  else identifier

/-- Reads a value without operators, properties and calls. -/
def primary (g : Grammar) : Reader Node := do
  match (← token).kind with
  | .word _ => wordValue g
  | .string value =>
    advance
    return .string value
  | .number =>
    advance
    return Node.leaf
  | .template _ => template g.limit false (g.read .expression)
  | .mark .openParen => parenthesized g
  | .mark .openBracket => array g
  | .mark .openBrace => object g
  | .mark .slash => regularExpression
  | .mark .slashAssign => regularExpression
  | .mark .decorator => classExpression g
  | .mark .less =>
    check (← isJsx)
    g.read (.element false)
  | _ => failure

end ModuleBundler.Ecma.Grammar
