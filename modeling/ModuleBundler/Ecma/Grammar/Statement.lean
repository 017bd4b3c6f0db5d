import ModuleBundler.Ecma.Grammar.Exchange
import ModuleBundler.Ecma.Grammar.Expression

namespace ModuleBundler.Ecma.Grammar

open Reader

/-- Reads the one statement that belongs to the statement before it. -/
def belonging (g : Grammar) : Reader Node := g.read (.statement true)

def ifStatement (g : Grammar) : Reader Node := do
  advance
  let condition ← g.condition
  let first ← belonging g
  let second ← if ← eatWord "else" then belonging g else pure Node.leaf
  return Node.group [condition, first, second]

def conditioned (g : Grammar) : Reader Node := do
  advance
  let condition ← g.condition
  return Node.group [condition, ← belonging g]

/-- Reads a loop with its condition at the end, which needs no semicolon. -/
def doStatement (g : Grammar) : Reader Node := do
  advance
  let node ← belonging g
  expectWord "while"
  let condition ← g.condition
  let _ ← eat .semicolon
  return Node.group [node, condition]

def iteration (g : Grammar) (awaits : Bool) (head : Node) : Reader Node := do
  let values ← if ← eatWord "in" then do
      check (!awaits)
      g.inner
    else do
      expectWord "of"
      g.item
  expect .closeParen
  return Node.group [head, values, ← belonging g]

def optionalExpression (g : Grammar) (behind : Mark) : Reader Node := do
  if ← isAt behind then return Node.leaf else g.inner

def countedLoop (g : Grammar) (awaits : Bool) (start : Node) : Reader Node := do
  check (!awaits)
  expect .semicolon
  let condition ← optionalExpression g .semicolon
  expect .semicolon
  let step ← optionalExpression g .closeParen
  expect .closeParen
  return Node.group [start, condition, step, ← belonging g]

def startsResource : Reader Bool := do
  let awaits ← eatWord "await"
  let t ← token
  let next ← nextToken
  return t.isWord "using" && !(awaits && t.onNewLine) && next.isName && !next.onNewLine

/-- Whether the token can follow the word `let` before variables of a loop. -/
def mayFollowLet (t : Token) : Bool :=
  t.isMark .openBrace || t.isMark .openBracket || t.isAnyWord && !t.isWord "in"

def variableLoop (g : Grammar) (awaits : Bool) : Reader Node := do
  let vs ← within (fun context => { context with inOperator := false }) (variableList g)
  if (← token).isWordOf ["in", "of"] then iteration g awaits vs.node
  else
    check ((← context).ambient || vs.isComplete)
    countedLoop g awaits vs.node

def expressionLoop (g : Grammar) (awaits : Bool) : Reader Node := do
  let t ← token
  let ambiguous := t.isWord "async" && (← nextToken).isWord "of" && !awaits
  let start ← within (fun context => { context with inOperator := false }) (g.read .expression)
  if (← token).isWordOf ["in", "of"] then
    check !ambiguous
    match start.target? false with
    | some target => iteration g awaits target
    | none => failure
  else countedLoop g awaits start

def forStatement (g : Grammar) : Reader Node := do
  advance
  let awaits ← eatWord "await"
  check (!awaits || (← context).awaits)
  expect .openParen
  let t ← token
  let next ← nextToken
  if t.isMark .semicolon then countedLoop g awaits Node.leaf
  else if t.isWordOf ["const", "var"] || t.isWord "let" && mayFollowLet next then
    variableLoop g awaits
  else if !next.isWord "of" && (← foresee startsResource) then variableLoop g awaits
  else expressionLoop g awaits

def jumpStatement : Reader Node := do
  advance
  let t ← token
  if !(t.isMark .semicolon || t.mayEnd) then
    let _ ← variableName
  endStatement
  return Node.leaf

def switchCase (g : Grammar) : Reader Node := do
  let value ← if ← eatWord "default" then pure Node.leaf else do
    expectWord "case"
    g.inner
  expect .colon
  let nodes ← many g.limit do
    let t ← token
    if t.isMark .closeBrace || t.isWord "case" || t.isWord "default" then return none
    else return some (← g.read (.statement false))
  return Node.group (value :: nodes)

def switchStatement (g : Grammar) : Reader Node := do
  advance
  let value ← g.condition
  expect .openBrace
  let cases ← many g.limit do
    if ← isAt .closeBrace then return none else return some (← switchCase g)
  expect .closeBrace
  return Node.group (value :: cases)

/-- Reads an error that is thrown, on the same line. -/
def throwStatement (g : Grammar) : Reader Node := do
  advance
  check (!(← token).onNewLine)
  let node ← g.inner
  endStatement
  return node

def catchClause (g : Grammar) : Reader Node := do
  let parameter ← if ← eat .openParen then do
      let target ← g.read .pattern
      let type ← annotation g
      expect .closeParen
      pure (Node.group [target, type])
    else pure Node.leaf
  return Node.group [parameter, ← block g]

/-- Reads statements with what happens after an error and in any case, of which one can be left
out. -/
def tryStatement (g : Grammar) : Reader Node := do
  advance
  let start ← block g
  let catches ← eatWord "catch"
  let handler ← if catches then catchClause g else pure Node.leaf
  let finishes ← eatWord "finally"
  let final ← if finishes then block g else pure Node.leaf
  check (catches || finishes)
  return Node.group [start, handler, final]

def returnStatement (g : Grammar) : Reader Node := do
  check (← context).returns
  advance
  let t ← token
  let node ← if t.isMark .semicolon || t.mayEnd then pure Node.leaf else g.inner
  endStatement
  return node

/-- Reads an expression as a statement. A name before a colon is a label. -/
def expressionStatement (g : Grammar) : Reader Node := do
  let node ← g.read .expression
  match node, ← isAt .colon with
  | .name _, true =>
    advance
    belonging g
  | _, _ =>
    endStatement
    return node

def scopedVariables (g : Grammar) (single : Bool) : Reader Node := do
  check !single
  return (← variableDeclaration g).node

/-- Reads a statement that starts with the word `let`, which may be a name. -/
def letStatement (g : Grammar) (single : Bool) : Reader Node := do
  let next ← nextToken
  if next.assigns || next.joins then
    let node ← g.assignment
    endStatement
    return node
  else if next.isMark .dot || next.isMark .openParen then
    let node ← g.read .expression
    endStatement
    return node
  else if single && !next.isMark .openBracket || next.isMark .semicolon then
    let node ← identifier
    endStatement
    return node
  else scopedVariables g single

def constStatement (g : Grammar) (single : Bool) : Reader Node := do
  if (← isTyped) && (← nextToken).isWord "enum" then return (← enumDeclaration g).node
  else scopedVariables g single

/-- Words that a declaration may start with where there are types, and that are names else. -/
def typedStarts : List String :=
  ["interface", "type", "module", "namespace", "declare", "enum", "private", "protected", "public",
    "abstract", "accessor", "static", "readonly", "global"]

/-- Reads a statement that starts with a word which is a keyword only in some places. -/
def otherStatement (g : Grammar) (single : Bool) : Reader Node := do
  let t ← token
  if ← startsFunction then return (← functionDeclaration g true single).node
  else if t.isWordOf ["using", "await"] && (← foresee startsResource) then scopedVariables g single
  else if (← isTyped) && t.isWordOf typedStarts &&
      (← foresee (startsTypedDeclaration g.limit)) then return (← declaration g).node
  else expressionStatement g

def wordStatement (g : Grammar) (single : Bool) (text : String) : Reader Node := do
  let next ← nextToken
  match text with
  | "if" => ifStatement g
  | "do" => doStatement g
  | "while" | "with" => conditioned g
  | "for" => forStatement g
  | "continue" | "break" => jumpStatement
  | "switch" => switchStatement g
  | "throw" => throwStatement g
  | "try" => tryStatement g
  | "debugger" =>
    advance
    endStatement
    return Node.leaf
  | "return" => returnStatement g
  | "class" =>
    check !single
    return (← classText g).node
  | "export" => exportDeclaration g
  | "import" =>
    if next.isMark .dot || next.isMark .openParen then expressionStatement g
    else importDeclaration g
  | "var" => return (← variableDeclaration g).node
  | "let" => letStatement g single
  | "const" => constStatement g single
  | _ => otherStatement g single

def undecorated (g : Grammar) (single : Bool) : Reader Node := do
  let t ← token
  match t.kind with
  | .word ⟨text, false⟩ => wordStatement g single text
  | .mark .openBrace => block g
  | .mark .semicolon =>
    advance
    return Node.leaf
  | _ => expressionStatement g

def decorated (g : Grammar) (single : Bool) : Reader Node := do
  let marks ← decorators g
  let t ← token
  check (t.isWord "class" || t.isWordOf ["abstract", "declare"] || (← foresee exportsClass))
  return Node.group (marks ++ [← undecorated g single])

def statement (g : Grammar) (single : Bool) : Reader Node := do
  if ← isAt .decorator then decorated g single else undecorated g single

end ModuleBundler.Ecma.Grammar
