import ModuleBundler.Ecma.Grammar.Basic

namespace ModuleBundler.Ecma.Grammar

open Reader

/-- Reads a type behind a colon, where there are types and there is one. -/
def annotation (g : Grammar) : Reader Node := do
  if (← isTyped) && (← isAt .colon) then
    advance
    g.type
  else return Node.leaf

/-- Reads the bracket that opens a list of types, which may be the first half of an operator. -/
def openAngle : Reader Unit := do
  let t ← token
  if t.isMark .less then advance
  else if t.isMark .shiftLeft then jump (t.start.drop 1)
  else failure

def typeArguments (g : Grammar) : Reader Node := do
  openAngle
  let (types, _) ← commaList g.limit .greater g.type
  check !types.isEmpty
  expect .greater
  return Node.group types

/-- Reads type arguments where a name on the same line may have them. -/
def optionalTypeArguments (g : Grammar) : Reader Node := do
  let t ← token
  if (t.isMark .less || t.isMark .shiftLeft) && !t.onNewLine then typeArguments g
  else return Node.leaf

def typeParameter (g : Grammar) : Reader Node := do
  let _ ← many g.limit do
    let next ← nextToken
    if (← token).isWordOf ["const", "in", "out"] && next.isAnyWord && !next.isWord "extends" then
      advance
      return some ()
    else return none
  let _ ← variableName
  let bound ← if ← eatWord "extends" then g.type else pure Node.leaf
  let standby ← if ← eat .assign then g.type else pure Node.leaf
  return Node.group [bound, standby]

/-- Reads type parameters, where there are types and there are some. -/
def typeParameters (g : Grammar) : Reader Node := do
  if (← isTyped) && (← isAt .less) then
    advance
    let (types, _) ← commaList g.limit .greater (typeParameter g)
    check !types.isEmpty
    expect .greater
    return Node.group types
  else return Node.leaf

def resultType (g : Grammar) : Reader Node := do
  let t ← token
  let next ← nextToken
  if t.isName && next.isWord "is" && !next.onNewLine then
    advance
    advance
    g.type
  else g.type

/-- Reads the result type of a function, where there is one. -/
def resultAnnotation (g : Grammar) : Reader Node := do
  if (← isTyped) && (← isAt .colon) then
    advance
    resultType g
  else return Node.leaf

def key (g : Grammar) : Reader Node := do
  match (← token).kind with
  | .word _ | .string _ | .number =>
    advance
    return .compound .key []
  | .mark .openBracket =>
    advance
    let node ← g.item
    expect .closeBracket
    return .compound .key [node]
  | _ => failure

def standby (g : Grammar) : Reader Node := do
  if ← eat .assign then return .compound .standby [← g.item]
  else return Node.leaf

def patternElement (g : Grammar) : Reader Node := do
  let target ← g.read .pattern
  return Node.group [target, ← standby g]

def arrayElement (g : Grammar) : Reader Node := do
  if ← isAt .comma then return Node.leaf
  else if ← eat .ellipsis then return .compound .spread [← g.read .pattern]
  else patternElement g

def patternProperty (g : Grammar) : Reader Node := do
  let t ← token
  let next ← nextToken
  if ← eat .ellipsis then return .compound .spread [← identifier]
  else if t.isName && (next.isMark .comma || next.isMark .closeBrace || next.isMark .assign) then
    let target ← identifier
    return Node.group [target, ← standby g]
  else
    let name ← key g
    expect .colon
    return Node.group [name, ← patternElement g]

def pattern (g : Grammar) : Reader Node := do
  let t ← token
  if t.isMark .openBrace then
    let (parts, trailing) ← bracketed g.limit .openBrace .closeBrace (patternProperty g)
    check (Node.spreadsLast trailing parts)
    return Node.group parts
  else if t.isMark .openBracket then
    let (parts, trailing) ← bracketed g.limit .openBracket .closeBracket (arrayElement g)
    check (Node.spreadsLast trailing parts)
    return Node.group parts
  else identifier

def decorators (g : Grammar) : Reader (List Node) :=
  many g.limit do
    if ← eat .decorator then
      return some (← within (fun context => { context with decorator := true }) (g.read .access))
    else return none

def parameterModifiers : List String := ["public", "private", "protected", "readonly", "override"]

/-- Whether a word at the front can be a modifier of what follows on the line. -/
def canBeModified (t : Token) : Bool :=
  !t.onNewLine &&
    (t.startsKey || t.isMark .openBrace || t.isMark .star || t.isMark .ellipsis)

/-- The place of a parameter in a list. -/
inductive ParameterKind where
  | plain
  /-- It takes all that is left. -/
  | rest
  /-- It gives the type of `this`. -/
  | receiver
deriving DecidableEq, Repr

def parameter (g : Grammar) : Reader (Node × ParameterKind) := do
  let typed ← isTyped
  let marks ← decorators g
  let _ ← many g.limit do
    if typed && (← token).isWordOf parameterModifiers && canBeModified (← nextToken) then
      advance
      return some ()
    else return none
  let t ← token
  if ← eat .ellipsis then
    let target ← g.read .pattern
    let type ← annotation g
    return (Node.group (marks ++ [target, type]), .rest)
  else if typed && t.isWord "this" then
    advance
    return (← annotation g, .receiver)
  else
    let target ← g.read .pattern
    if typed then
      let _ ← eat .question
    let type ← annotation g
    return (Node.group (marks ++ [target, type, ← standby g]), .plain)

/-- The parameters of a function. -/
structure Parameters where
  node : Node
  kinds : List ParameterKind

namespace Parameters

def size (ps : Parameters) : Nat := (ps.kinds.filter (· ≠ .receiver)).length

def hasReceiver (ps : Parameters) : Bool := ps.kinds.contains .receiver

def hasRest (ps : Parameters) : Bool := ps.kinds.contains .rest

end Parameters

/-- Reads the parameters of a function. The one that takes all that is left is the last one, and
no comma follows it; the one that gives the type of `this` is the first one. -/
def parameters (g : Grammar) : Reader Parameters := do
  let (items, trailing) ← bracketed g.limit .openParen .closeParen (parameter g)
  let kinds := items.map Prod.snd
  check (!kinds.dropLast.contains .rest && !(trailing && kinds.getLast? = some .rest) &&
    !(kinds.drop 1).contains .receiver)
  return ⟨Node.group (items.map Prod.fst), kinds⟩

end ModuleBundler.Ecma.Grammar
