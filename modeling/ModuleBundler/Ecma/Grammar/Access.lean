import ModuleBundler.Ecma.Grammar.Function
import ModuleBundler.Ecma.Operator

namespace ModuleBundler.Ecma.Grammar

open Reader

def argument (g : Grammar) : Reader Node := do
  if ← eat .ellipsis then return .compound .spread [← g.assignment] else g.assignment

def arguments (g : Grammar) : Reader (List Node) := do
  return (← bracketed g.limit .openParen .closeParen (argument g)).1

/-- Whether type arguments in an expression may end before the token. -/
def mayFollowTypeArguments (t : Token) : Bool :=
  t.isMark .openParen || t.isTemplate ||
    !(t.isMark .less || t.isMark .greater || t.isMark .plus || t.isMark .minus) &&
      (t.onNewLine || t.joins || !t.startsExpression)

/-- Reads type arguments in an expression, where a comparison would look alike. -/
def argumentTypes (g : Grammar) : Reader Node := do
  openAngle
  let (types, _) ← commaList g.limit .greater g.type
  check (!types.isEmpty)
  check (Operator.ofGreater (← token).start ≠ (.join Operator.comparison, 2))
  expect .greater
  check (mayFollowTypeArguments (← token))
  return Node.group types

/-- The value and the type arguments that a call or a template takes. -/
def splitTypes : Node → Node × Node
  | .compound .instantiation [value, types] => (value, types)
  | value => (value, Node.leaf)

/-- A call of a value, which may have type arguments of its own. -/
def callOf (value : Node) (arguments : List Node) : Node :=
  let (callee, types) := splitTypes value
  .call callee types arguments

def propertyName : Reader Unit := do
  match (← token).kind with
  | .word _ | .privateName _ => advance
  | _ => failure

def computedProperty (g : Grammar) (value : Node) : Reader Node := do
  expect .openBracket
  let name ← g.inner
  expect .closeBracket
  return .compound .place [value, name]

/-- Reads a property, a call or a template behind a value. Says whether the chain ends early where
a value is missing; then no template can be part of it. -/
def accessStep (g : Grammar) (calls : Bool) : Node × Bool → Reader (Option (Node × Bool))
  | (value, optional) => do
    let t ← token
    match t.kind with
    | .mark .dot =>
      advance
      propertyName
      return some (.compound .place [value], optional)
    | .mark .chain =>
      if calls then
        advance
        let t ← token
        if t.isMark .openBracket then return some (← computedProperty g value, true)
        else if t.isMark .openParen then return some (callOf value (← arguments g), true)
        else if (← isTyped) && (t.isMark .less || t.isMark .shiftLeft) then
          let types ← argumentTypes g
          return some (.call value types (← arguments g), true)
        else
          propertyName
          return some (.compound .place [value], true)
      else failure
    | .mark .openBracket =>
      if (← context).decorator then return none
      else return some (← computedProperty g value, optional)
    | .mark .openParen =>
      if calls then return some (callOf value (← arguments g), optional) else return none
    | .mark .bang =>
      if (← isTyped) && !t.onNewLine then
        advance
        return some (.compound .cast [value], optional)
      else return none
    | .template _ =>
      check (!optional)
      let (tag, types) := splitTypes value
      return some (Node.group [tag, types, ← template g.limit true (g.read .expression)], optional)
    | .mark .less | .mark .shiftLeft =>
      if ← isTyped then
        match ← attempt (argumentTypes g) with
        | some types => return some (.compound .instantiation [value, types], optional)
        | none => return none
      else return none
    | _ => return none

def importCall (g : Grammar) : Reader Node := do
  expect .openParen
  let request ← g.item
  let settings ← if ← eat .comma then
      if ← isAt .closeParen then pure Node.leaf else g.item
    else pure Node.leaf
  let _ ← eat .comma
  expect .closeParen
  return Node.group [request, settings]

def importExpression (g : Grammar) : Reader Node := do
  expectWord "import"
  if ← eat .dot then
    if ← eatWord "meta" then return Node.leaf
    else
      check ((← token).isWordOf ["source", "defer"])
      advance
      importCall g
  else importCall g

/-- Reads what a chain starts with, if it is `super`, which cannot stand alone. -/
def superOr (p : Reader Node) : Reader Node := do
  if ← eatWord "super" then
    let t ← token
    check (t.isMark .dot || t.isMark .openBracket || t.isMark .openParen)
    return Node.leaf
  else p

def newExpression (g : Grammar) : Reader Node := do
  expectWord "new"
  if ← eat .dot then
    expectWord "target"
    return Node.leaf
  else
    let t ← token
    check (!t.isWord "import" || (← nextToken).isMark .dot)
    let start ← superOr (g.read .primary)
    let (value, _) ← iterate (accessStep g false) g.limit (start, false)
    let (callee, types) := splitTypes value
    let passed ← if ← isAt .openParen then arguments g else pure []
    return Node.group (callee :: types :: passed)

def access (g : Grammar) : Reader Node := do
  let start ← superOr (g.read .primary)
  let (value, optional) ← iterate (accessStep g true) g.limit (start, false)
  return if optional then Node.group [value] else value

end ModuleBundler.Ecma.Grammar
