import ModuleBundler.Ecma.Grammar.Types

namespace ModuleBundler.Ecma.Grammar

open Reader

/-- What kind of function it is. -/
structure Flavor where
  asynchronous : Bool := false
  generator : Bool := false
deriving DecidableEq, Repr

def Flavor.enter (f : Flavor) (context : Context) : Context :=
  { context with
    inOperator := true
    decorator := false
    awaits := f.asynchronous
    yields := f.generator
    conditionalTypes := true }

/-- Reads statements up to a closing brace, which is left. -/
def statements (g : Grammar) : Reader (List Node) :=
  many g.limit do
    if ← isAt .closeBrace then return none else return some (← g.read (.statement false))

def block (g : Grammar) : Reader Node := do
  expect .openBrace
  let nodes ← statements g
  expect .closeBrace
  return Node.group nodes

def body (g : Grammar) : Reader Node :=
  within (fun context => { context with returns := true, inOperator := true, decorator := false })
    (block g)

/-- The parameters, the result type and the body of a function. -/
structure FunctionText where
  node : Node
  parameters : Parameters
  hasBody : Bool

/-- Reads a function from its parameters on. Only with types it can lack a body. -/
def functionText (g : Grammar) (flavor : Flavor) : Reader FunctionText :=
  within flavor.enter do
    let types ← typeParameters g
    let ps ← parameters g
    let result ← resultAnnotation g
    if ← isAt .openBrace then
      return ⟨Node.group [types, ps.node, result, ← body g], ps, true⟩
    else
      check (← isTyped)
      return ⟨Node.group [types, ps.node, result], ps, false⟩

/-- Reads a function with a body, from its parameters on. -/
def wholeFunction (g : Grammar) (flavor : Flavor) : Reader Node := do
  let f ← functionText g flavor
  check f.hasBody
  return f.node

/-- Reads the name of a function expression, which it can leave out. The name already stands
inside the function. -/
def functionName (flavor : Flavor) : Reader Unit := do
  if (← token).isName then
    let _ ← within flavor.enter variableName

def functionExpression (g : Grammar) : Reader Node := do
  let asynchronous ← eatWord "async"
  expectWord "function"
  let generator ← eat .star
  let flavor : Flavor := { asynchronous, generator }
  functionName flavor
  wholeFunction g flavor

/-- Reads a method from its parameters on, and what ends it if it has no body. -/
def method (g : Grammar) (flavor : Flavor) : Reader FunctionText := do
  let f ← functionText g flavor
  if !f.hasBody then endStatement
  return f

def getter (g : Grammar) : Reader Node := do
  let f ← method g {}
  check (f.parameters.size = 0)
  return f.node

def setter (g : Grammar) : Reader Node := do
  let f ← method g {}
  check (f.parameters.size = 1 && !f.parameters.hasRest)
  return f.node

/-- Whether the parameters of an arrow function start somewhere. -/
inductive Likelihood where
  | never
  | maybe
  | always
deriving DecidableEq, Repr

/-- Words that tell a parameter from a value where a name follows them. -/
def parameterSigns : List String :=
  ["abstract", "accessor", "const", "declare", "default", "export", "in", "out", "static"] ++
    parameterModifiers

/-- How likely a name in parentheses is a parameter, by what follows it. -/
def likelihoodAfterName : Reader Likelihood := do
  let t ← token
  if t.isMark .colon then return .always
  else if t.isMark .question then
    let next ← nextToken
    return if next.isMark .colon || next.isMark .comma || next.isMark .assign ||
      next.isMark .closeParen then .always else .never
  else if t.isMark .comma || t.isMark .assign || t.isMark .closeParen then return .maybe
  else return .never

/-- How likely the parenthesis here opens parameters of an arrow function. -/
def likelihoodInParens : Reader Likelihood := do
  advance
  let second ← token
  let third ← nextToken
  let typed ← isTyped
  if second.isMark .closeParen then
    return if third.isMark .arrow || third.isMark .openBrace then .always
      else if third.isMark .colon && typed then .maybe
      else .never
  else if second.isMark .openBracket || second.isMark .openBrace then return .maybe
  else if second.isMark .ellipsis then
    return if third.isName then .always
      else if third.isMark .openBracket || third.isMark .openBrace then .maybe
      else .never
  else if second.isWordOf parameterSigns && third.isName then
    return if third.isWord "as" then .never else .always
  else if second.isName || second.isWord "this" then
    advance
    likelihoodAfterName
  else return .never

/-- How likely the bracket here opens type parameters of an arrow function. -/
def likelihoodInAngles : Reader Likelihood := do
  advance
  let second ← token
  let third ← nextToken
  if !(second.isName || second.isWord "const") then return .never
  else if !(← isJsx) then return .maybe
  else if second.isWord "const" && third.isName then
    advance
    let third ← nextToken
    return if third.isWord "extends" || third.isMark .comma || third.isMark .assign then .always
      else .never
  else if third.isMark .comma || third.isMark .assign then return .always
  else if third.isWord "extends" then
    advance
    let fourth ← nextToken
    return if fourth.isMark .assign || fourth.isMark .greater || fourth.isMark .slash then .never
      else if fourth.isName then .maybe
      else .always
  else return .never

/-- How likely an arrow function starts here with parameters in parentheses. -/
def arrowLikelihood : Reader Likelihood := do
  let judge : Reader Likelihood := do
    let t ← token
    if t.isMark .openParen then likelihoodInParens
    else if t.isMark .less && (← isTyped) then likelihoodInAngles
    else return .never
  let answer ← ahead do
    if ← isAtWord "async" then
      advance
      check (!(← token).onNewLine)
      judge
    else judge
  return answer.getD .never

/-- An arrow function up to its body. -/
structure ArrowHead where
  node : Node
  asynchronous : Bool
  hasResultType : Bool

def arrow : Reader Unit := do
  check (!(← token).onNewLine)
  expect .arrow

/-- Reads an arrow function with parameters in parentheses, up to its body. -/
def arrowHead (g : Grammar) : Reader ArrowHead := do
  let asynchronous ← eatWord "async"
  let (node, hasResultType) ←
    within (fun context => { context with awaits := asynchronous }) do
      let types ← typeParameters g
      let ps ← parameters g
      check (!ps.hasReceiver)
      let hasResultType := (← isTyped) && (← isAt .colon)
      return (Node.group [types, ps.node, ← resultAnnotation g], hasResultType)
  arrow
  return { node, asynchronous, hasResultType }

def arrowBody (g : Grammar) (asynchronous returnType : Bool) : Reader Node :=
  within (fun context => { context with awaits := asynchronous, yields := false }) do
    if ← isAt .openBrace then body g else g.read (.assignment returnType)

/-- Reads an arrow function with parameters in parentheses. Where a type behind them has to be
confirmed, another colon must follow. -/
def parenArrow (g : Grammar) (returnType : Bool) : Reader Node := do
  let head ← arrowHead g
  let node ← arrowBody g head.asynchronous returnType
  check (returnType || !head.hasResultType || (← isAt .colon))
  return Node.group [head.node, node]

/-- Whether an arrow function starts here with a single name as its parameter, behind the word
that makes it asynchronous. -/
def startsAsyncName : Reader Bool := do
  expectWord "async"
  let t ← token
  let next ← nextToken
  return t.isName && !t.onNewLine && next.isMark .arrow && !next.onNewLine

/-- Reads an arrow function, unless its only parameter is a name at the front. -/
def arrowFunction? (g : Grammar) (returnType : Bool) : Reader (Option Node) := do
  match ← arrowLikelihood with
  | .always => return some (← parenArrow g returnType)
  | .maybe =>
    match ← attempt (parenArrow g returnType) with
    | some node => return some node
    | none => return none
  | .never =>
    if ← foresee startsAsyncName then
      expectWord "async"
      let _ ← within (fun context => { context with awaits := true }) variableName
      arrow
      return some (← arrowBody g true returnType)
    else return none

end ModuleBundler.Ecma.Grammar
