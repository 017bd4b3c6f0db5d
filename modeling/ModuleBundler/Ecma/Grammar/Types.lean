import ModuleBundler.Ecma.Grammar.Pattern
import ModuleBundler.Ecma.Grammar.Template

namespace ModuleBundler.Ecma

def Token.startsType (t : Token) : Bool :=
  match t.kind with
  | .word w =>
    !Token.isReserved w.text ||
      ["void", "null", "this", "typeof", "new", "true", "false", "import"].contains w.text
  | .string _ | .number | .template _ => true
  | .mark m =>
    [Mark.openParen, .openBracket, .openBrace, .less, .bar, .ampersand, .minus].contains m
  | _ => false

namespace Grammar

open Reader

/-- Whether the parenthesis here opens the parameters of a function type. -/
def opensParameters (g : Grammar) : Reader Bool := do
  expect .openParen
  if (← isAt .closeParen) || (← isAt .ellipsis) then return true
  else
    let _ ← many g.limit do
      if (← token).isWordOf parameterModifiers && canBeModified (← nextToken) then
        advance
        return some ()
      else return none
    let t ← token
    if t.isName || t.isWord "this" then advance
    else
      check (t.isMark .openBracket || t.isMark .openBrace)
      let _ ← g.read .pattern
    let t ← token
    if t.isMark .colon || t.isMark .comma || t.isMark .question || t.isMark .assign then
      return true
    else
      expect .closeParen
      isAt .arrow

def startsFunctionType (g : Grammar) : Reader Bool := do
  let t ← token
  if t.isMark .less || t.isWord "new" then return true
  else if t.isWord "abstract" then return (← nextToken).isWord "new"
  else foresee (opensParameters g)

def functionType (g : Grammar) : Reader Node := do
  let _ ← eatWord "abstract"
  let _ ← eatWord "new"
  let types ← typeParameters g
  let ps ← parameters g
  expect .arrow
  return Node.group [types, ps.node, ← resultType g]

/-- Reads types joined by the operator, which may also stand before them. -/
def joinedTypes (g : Grammar) (m : Mark) (operand : Reader Node) : Reader Node := do
  let _ ← eat m
  let first ← operand
  let others ← many g.limit do
    if ← eat m then return some (← operand) else return none
  return if others.isEmpty then first else Node.group (first :: others)

def wholeType (g : Grammar) : Reader Node := do
  if ← startsFunctionType g then functionType g
  else
    let operand ← joinedTypes g .bar (joinedTypes g .ampersand (g.read .typeOperand))
    let t ← token
    if (← context).conditionalTypes && !t.onNewLine && t.isWord "extends" then
      advance
      let bound ← within (fun context => { context with conditionalTypes := false }) g.type
      expect .question
      let inner := within (fun context => { context with conditionalTypes := true }) g.type
      let holds ← inner
      expect .colon
      return Node.group [operand, bound, holds, ← inner]
    else return operand

/-- Reads the bound of a type that a condition finds, where it cannot be the condition. -/
def inferredBound (g : Grammar) : Reader Node := do
  expectWord "extends"
  let bound ← within (fun context => { context with conditionalTypes := false }) g.type
  check (!(← context).conditionalTypes || !(← isAt .question))
  return bound

def dottedName (g : Grammar) : Reader Unit := do
  let _ ← anyWord
  let _ ← many g.limit do
    if ← eat .dot then
      match (← token).kind with
      | .word _ | .privateName _ =>
        advance
        return some ()
      | _ => failure
    else return none

def importedType (g : Grammar) : Reader Node := do
  expectWord "import"
  expect .openParen
  let module ← g.type
  let settings ← if ← eat .comma then
      if ← isAt .closeParen then pure Node.leaf else g.item
    else pure Node.leaf
  let _ ← eat .comma
  expect .closeParen
  if ← eat .dot then dottedName g
  return Node.group [module, settings, ← optionalTypeArguments g]

def queriedType (g : Grammar) : Reader Node := do
  expectWord "typeof"
  if ← isAtWord "import" then importedType g
  else
    dottedName g
    optionalTypeArguments g

def memberEnd : Reader Unit := do
  if !(← eat .comma) then endStatement

/-- Reads the parameters and the result of a function without its body. -/
def signature (g : Grammar) : Reader Node := do
  let types ← typeParameters g
  let ps ← parameters g
  return Node.group [types, ps.node, ← resultAnnotation g]

def startsIndex : Reader Bool := do
  expect .openBracket
  check (← token).isName
  advance
  isAt .colon

def indexMember (g : Grammar) : Reader Node := do
  expect .openBracket
  let _ ← variableName
  expect .colon
  let keys ← g.type
  expect .closeBracket
  return Node.group [keys, ← annotation g]

def typeMember (g : Grammar) : Reader Node := do
  let t ← token
  let next ← nextToken
  let node ← if t.isMark .openParen || t.isMark .less then signature g
    else if t.isWord "new" && (next.isMark .openParen || next.isMark .less) then do
      advance
      signature g
    else if t.isWordOf ["get", "set"] && next.startsKey then do
      advance
      let name ← key g
      pure (Node.group [name, ← signature g])
    else do
      let _ ← many g.limit do
        if (← token).isWord "readonly" && canBeModified (← nextToken) then
          advance
          return some ()
        else return none
      if ← foresee startsIndex then indexMember g
      else
        let name ← key g
        let _ ← eat .question
        let t ← token
        let type ← if t.isMark .openParen || t.isMark .less then signature g else annotation g
        pure (Node.group [name, type])
  memberEnd
  return node

def typeMembers (g : Grammar) : Reader Node := do
  expect .openBrace
  let members ← enclosed (many g.limit do
    if ← isAt .closeBrace then return none else return some (← typeMember g))
  expect .closeBrace
  return Node.group members

def startsMappedType : Reader Bool := do
  expect .openBrace
  let t ← token
  if t.isMark .plus || t.isMark .minus then
    advance
    isAtWord "readonly"
  else
    let _ ← eatWord "readonly"
    expect .openBracket
    check (← token).isName
    advance
    isAtWord "in"

/-- Reads a sign that adds or takes away what follows, if there is one. -/
def optionalSign : Reader Bool := do
  let t ← token
  if t.isMark .plus || t.isMark .minus then
    advance
    return true
  else return false

def mappedType (g : Grammar) : Reader Node := do
  expect .openBrace
  if ← optionalSign then expectWord "readonly"
  else
    let _ ← eatWord "readonly"
  expect .openBracket
  let _ ← variableName
  expectWord "in"
  let keys ← g.type
  let renamed ← if ← eatWord "as" then g.type else pure Node.leaf
  expect .closeBracket
  if ← optionalSign then expect .question
  else
    let _ ← eat .question
  let type ← annotation g
  memberEnd
  expect .closeBrace
  return Node.group [keys, renamed, type]

def startsNamedElement : Reader Bool := do
  let _ ← anyWord
  let _ ← eat .question
  isAt .colon

def tupleElement (g : Grammar) : Reader Node := do
  let _ ← eat .ellipsis
  if ← foresee startsNamedElement then
    advance
    let _ ← eat .question
    expect .colon
  g.type

def simpleType (g : Grammar) : Reader Node := do
  let t ← token
  let next ← nextToken
  match t.kind with
  | .string _ | .number =>
    advance
    return Node.leaf
  | .template _ => template g.limit false g.type
  | .mark .minus =>
    advance
    check ((← token).kind = .number)
    advance
    return Node.leaf
  | .mark .openParen =>
    advance
    let node ← g.type
    expect .closeParen
    return node
  | .mark .openBracket =>
    let (elements, _) ← bracketed g.limit .openBracket .closeBracket (tupleElement g)
    return Node.group elements
  | .mark .openBrace =>
    if ← foresee startsMappedType then mappedType g else typeMembers g
  | .word _ =>
    if t.isWord "typeof" then queriedType g
    else if t.isWord "import" then importedType g
    else if t.isWord "asserts" && (next.isName || next.isWord "this") && !next.onNewLine then
      advance
      advance
      if ← eatWord "is" then g.type else return Node.leaf
    else if t.isWord "this" then
      advance
      if next.isWord "is" && !next.onNewLine then
        advance
        g.type
      else return Node.leaf
    else if t.isWordOf ["void", "null", "true", "false"] then
      advance
      return Node.leaf
    else
      check (!t.isWord "new")
      dottedName g
      optionalTypeArguments g
  | _ => failure

def typeSuffix (g : Grammar) (operand : Node) : Reader (Option Node) := do
  let t ← token
  if t.onNewLine then return none
  else if t.isMark .bang then
    advance
    return some operand
  else if t.isMark .question then
    if (← nextToken).startsType then return none
    else
      advance
      return some operand
  else if t.isMark .openBracket then
    advance
    if ← eat .closeBracket then return some operand
    else
      let index ← g.type
      expect .closeBracket
      return some (Node.group [operand, index])
  else return none

def typeOperand (g : Grammar) : Reader Node := do
  let t ← token
  if t.isWordOf ["keyof", "unique", "readonly"] then
    advance
    g.read .typeOperand
  else if t.isWord "infer" then
    advance
    let _ ← variableName
    return (← attempt (inferredBound g)).getD Node.leaf
  else within (fun context => { context with conditionalTypes := true }) do
    iterate (typeSuffix g) g.limit (← simpleType g)

end Grammar

end ModuleBundler.Ecma
