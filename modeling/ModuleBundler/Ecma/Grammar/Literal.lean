import ModuleBundler.Ecma.Grammar.Access
import ModuleBundler.Ecma.RegularExpression

namespace ModuleBundler.Ecma.Grammar

open Reader

def element (g : Grammar) : Reader Node := do
  if ← isAt .comma then return .compound .hole [] else argument g

def array (g : Grammar) : Reader Node := do
  let (parts, trailing) ← bracketed g.limit .openBracket .closeBracket (element g)
  return .compound (.array trailing) parts

/-- Reads a property behind its key: a value or a method. -/
def propertyValue (g : Grammar) (name : Node) : Reader Node := do
  if ← eat .colon then return .compound .property [name, ← g.assignment]
  else return Node.group [name, (← method g {}).node]

def property (g : Grammar) : Reader Node := do
  let t ← token
  let next ← nextToken
  if t.isMark .ellipsis then argument g
  else if t.isWord "async" && (next.startsKey || next.isMark .star) && !next.onNewLine then
    advance
    let generator ← eat .star
    let name ← key g
    return Node.group [name, (← method g { asynchronous := true, generator }).node]
  else if t.isWord "get" && next.startsKey then
    advance
    let name ← key g
    return Node.group [name, ← getter g]
  else if t.isWord "set" && next.startsKey then
    advance
    let name ← key g
    return Node.group [name, ← setter g]
  else if t.isMark .star then
    advance
    let name ← key g
    return Node.group [name, (← method g { generator := true }).node]
  else if t.isName && (next.isMark .comma || next.isMark .closeBrace) then identifier
  else if t.isName && next.isMark .assign then
    let name ← identifier
    advance
    return .compound .fallback [name, ← g.assignment]
  else propertyValue g (← key g)

def object (g : Grammar) : Reader Node := do
  let (parts, trailing) ← bracketed g.limit .openBrace .closeBrace (property g)
  return .compound (.object trailing) parts

def parenthesized (g : Grammar) : Reader Node := do
  expect .openParen
  let node ← g.inner
  expect .closeParen
  return .compound .paren [node]

def regularExpression : Reader Node := do
  match afterRegularExpression ((← token).start.drop 1) with
  | some cs =>
    jump cs
    return Node.leaf
  | none => failure

end ModuleBundler.Ecma.Grammar
