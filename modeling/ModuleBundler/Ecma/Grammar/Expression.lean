import ModuleBundler.Ecma.Grammar.Literal

namespace ModuleBundler.Ecma.Grammar

open Reader

def takeOperator : Reader Unit := do
  let t ← token
  if t.isMark .greater then jump (t.start.drop (Operator.ofGreater t.start).2) else advance

/-- Whether `await` is an operator here. Where it cannot be one, it still is not a name if an
operand seems to follow. -/
def startsAwait : Reader Bool := do
  if ← isAtWord "await" then
    let next ← nextToken
    return (← context).awaits ||
      !next.onNewLine && (next.isAnyWord || next.isString || next.kind = .number)
  else return false

/-- Whether `yield` is an operator here. Where it cannot be one, it still is not a name if an
operand seems to follow. -/
def startsYield : Reader Bool := do
  if ← isAtWord "yield" then
    let next ← nextToken
    return (← context).yields ||
      !next.onNewLine && (next.isAnyWord || next.isString || next.kind = .number)
  else return false

/-- Whether the token is an operator of one operand, leaving out those that assign. -/
def isUnaryOperator (t : Token) : Bool :=
  t.isMark .plus || t.isMark .minus || t.isMark .tilde || t.isMark .bang ||
    t.isWordOf ["delete", "typeof", "void"]

/-- Reads a value, and steps up or down before or behind it. -/
def updated (g : Grammar) : Reader Node := do
  let t ← token
  if t.isMark .increment || t.isMark .decrement then
    advance
    let target ← g.read .unary
    check target.isSimpleTarget
    return Node.group [target]
  else if t.isMark .less && (← isJsx) then g.read (.element false)
  else
    let value ← g.read .access
    let t ← token
    if (t.isMark .increment || t.isMark .decrement) && !t.onNewLine then
      check value.isSimpleTarget
      advance
      return Node.group [value]
    else return value

/-- Reads a value under another type, with the type in brackets before it. -/
def typeAssertion (g : Grammar) : Reader Node := do
  check (← isTyped)
  expect .less
  let type ← g.type
  expect .greater
  let value ← g.read .operand
  return .compound .cast [value, type]

def operand (g : Grammar) : Reader Node := do
  let t ← token
  if isUnaryOperator t then
    advance
    return Node.group [← g.read .operand]
  else if t.isMark .less && !(← isJsx) then typeAssertion g
  else if ← startsAwait then
    check (← context).awaits
    advance
    return Node.group [← g.read .operand]
  else updated g

/-- Reads an operand of operators of two operands. One with an operator of its own cannot be
raised to a power. -/
def unary (g : Grammar) : Reader Node := do
  let t ← token
  if isUnaryOperator t || t.isWord "await" || t.isMark .less && !(← isJsx) then
    let node ← operand g
    check (!(← isAt .power))
    return node
  else updated g

/-- Whether the node is an operation that cannot be mixed with `??` without parentheses. -/
def isLogical : Node → Bool
  | .compound .logical _ => true
  | _ => false

/-- Joins two values by the operator, if they can be joined. -/
def joined (tightness : Nat) (left right : Node) : Reader Node :=
  if tightness = Operator.coalesce then do
    check (!isLogical left && !isLogical right)
    return .compound .coalesce [left, right]
  else if tightness ≤ Operator.conjunction then return .compound .logical [left, right]
  else return Node.group [left, right]

/-- Whether an operator of the given tightness leaves its left operand to one outside. -/
def stopsAt (above tightness : Nat) : Bool :=
  if tightness = Operator.power then tightness < above else tightness ≤ above

def operationStep (g : Grammar) (above : Nat) (left : Node) : Reader (Option Node) := do
  let t ← token
  if (← isTyped) && t.isWordOf ["as", "satisfies"] then
    if t.onNewLine || stopsAt above Operator.comparison then return none
    else
      advance
      return some (.compound .cast [left, ← g.type])
  else
    match t.operator? with
    | some (.join tightness) =>
      if stopsAt above tightness || t.isWord "in" && !(← context).inOperator then return none
      else
        takeOperator
        return some (← joined tightness left (← g.read (.operation tightness)))
    | _ => return none

def privateQuestion (g : Grammar) (above : Nat) : Reader Node := do
  check ((← context).inOperator && above < Operator.comparison)
  advance
  expectWord "in"
  return Node.group [← g.read (.operation Operator.comparison)]

/-- Reads values joined by operators that bind more tightly than the number says. -/
def operation (g : Grammar) (above : Nat) : Reader Node := do
  let left ←
    match (← token).kind with
    | .privateName _ => privateQuestion g above
    | _ => unary g
  iterate (operationStep g above) g.limit left

/-- Reads a choice behind its condition, if there is one. -/
def choice (g : Grammar) (returnType : Bool) (condition : Node) : Reader Node := do
  if ← eat .question then
    let first ← within (fun context => { context with inOperator := true })
      (g.read (.assignment false))
    expect .colon
    return Node.group [condition, first, ← g.read (.assignment returnType)]
  else return condition

def yieldExpression (g : Grammar) : Reader Node := do
  check (← context).yields
  advance
  let t ← token
  if t.onNewLine then return Node.leaf
  else if ← eat .star then return Node.group [← g.assignment]
  else if t.kind = .ending || t.isMark .semicolon || t.isMark .closeBracket ||
      t.isMark .closeBrace || t.isMark .closeParen || t.isMark .comma || t.isMark .colon ||
      t.isWord "in" then return Node.leaf
  else return Node.group [← g.assignment]

/-- Reads an assignment, a choice or the body of an arrow function behind a value. -/
def assignmentRest (g : Grammar) (returnType : Bool) (left : Node) : Reader Node := do
  let t ← token
  match left, t.isMark .arrow with
  | .name _, true =>
    arrow
    return Node.group [left, ← arrowBody g false returnType]
  | _, _ =>
    match t.operator? with
    | some .assign =>
      match left.target? false with
      | some target =>
        advance
        return .compound .assign [target, ← g.read (.assignment returnType)]
      | none => failure
    | some .update =>
      check left.isSimpleTarget
      takeOperator
      return Node.group [left, ← g.read (.assignment returnType)]
    | _ => choice g returnType left

def assignmentExpression (g : Grammar) (returnType : Bool) : Reader Node := do
  if ← startsYield then yieldExpression g
  else
    match ← arrowFunction? g returnType with
    | some node => return node
    | none => assignmentRest g returnType (← operation g 0)

def expression (g : Grammar) : Reader Node := do
  let first ← g.assignment
  let others ← many g.limit do
    if ← eat .comma then return some (← g.assignment) else return none
  return if others.isEmpty then first else Node.group (first :: others)

end ModuleBundler.Ecma.Grammar
