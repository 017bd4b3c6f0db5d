import ModuleBundler.Ecma.Grammar.Class

namespace ModuleBundler.Ecma.Grammar

open Reader

/-- What is declared for one variable or pattern. -/
structure Declarator where
  node : Node
  names : List String
  /-- Whether it is taken apart. -/
  isPattern : Bool
  hasValue : Bool

def declarator (g : Grammar) : Reader Declarator := do
  let typed ← isTyped
  let t ← token
  let target ← g.read .pattern
  let isPattern := t.isMark .openBrace || t.isMark .openBracket
  if typed then
    let mark ← token
    if mark.isMark .bang && !mark.onNewLine && !isPattern then advance
    let _ ← eat .question
  let type ← annotation g
  let hasValue ← eat .assign
  let value ← if hasValue then g.assignment else pure Node.leaf
  return {
    node := Node.group [target, type, value], names := target.boundNames, isPattern, hasValue }

/-- What a word before variables asks of them. -/
inductive VariableKind where
  | free
  /-- Each has a value. -/
  | constant
  /-- Each has a value and is no pattern. -/
  | resource
deriving DecidableEq, Repr

/-- Whether the variable can be declared in this way where a value could stand. -/
def Declarator.suits (d : Declarator) (kind : VariableKind) : Bool :=
  match kind with
  | .free => d.hasValue || !d.isPattern
  | .constant => d.hasValue
  | .resource => d.hasValue && !d.isPattern

/-- Variables of a declaration. -/
structure Variables where
  kind : VariableKind
  declarators : List Declarator

namespace Variables

def node (vs : Variables) : Node := Node.group (vs.declarators.map Declarator.node)

def names (vs : Variables) : List String := vs.declarators.flatMap Declarator.names

def isComplete (vs : Variables) : Bool := vs.declarators.all (·.suits vs.kind)

end Variables

def variableKind : Reader VariableKind := do
  let t ← token
  advance
  if t.isWord "const" then return .constant
  else if t.isWord "using" then return .resource
  else if t.isWord "await" then
    advance
    return .resource
  else return .free

def variableList (g : Grammar) : Reader Variables := do
  let kind ← variableKind
  return { kind, declarators := ← someItems g.limit (declarator g) }

def variableDeclaration (g : Grammar) : Reader Declaration := do
  let vs ← variableList g
  check ((← context).ambient || vs.isComplete)
  endStatement
  return { node := vs.node, names := vs.names }

/-- Reads a function, whose name may be left out if it is not required. -/
def functionDeclaration (g : Grammar) (named single : Bool) : Reader Declaration := do
  let asynchronous ← eatWord "async"
  expectWord "function"
  let generator ← eat .star
  check (!single || !(asynchronous || generator))
  let names ← if named || (← token).isName then pure [← variableName] else pure []
  let f ← method g { asynchronous, generator }
  return { node := f.node, names }

def interfaceDeclaration (g : Grammar) : Reader Declaration := do
  expectWord "interface"
  let name ← variableName
  let types ← typeParameters g
  let base ← if ← eatWord "extends" then typeList g else pure Node.leaf
  return { node := Node.group [types, base, ← typeMembers g], names := [name] }

def aliasDeclaration (g : Grammar) : Reader Declaration := do
  expectWord "type"
  let name ← variableName
  let types ← typeParameters g
  expect .assign
  let type ← g.type
  endStatement
  return { node := Node.group [types, type], names := [name] }

def enumMember (g : Grammar) : Reader Node := do
  if ← eat .openBracket then
    let t ← token
    if t.isString then advance
    else
      let _ ← template g.limit false failure
    expect .closeBracket
  else if (← token).isString then advance
  else
    let _ ← anyWord
  standby g

def enumDeclaration (g : Grammar) : Reader Declaration := do
  let _ ← eatWord "const"
  expectWord "enum"
  let name ← variableName
  let (members, _) ← bracketed g.limit .openBrace .closeBrace (enumMember g)
  return { node := Node.group members, names := [name] }

def namespaceDeclaration (g : Grammar) : Reader Declaration := do
  if ← eatWord "global" then return { node := ← block g }
  else
    advance
    if (← token).isString then
      advance
      if ← isAt .openBrace then return { node := ← block g }
      else
        endStatement
        return { node := Node.leaf }
    else
      let name ← variableName
      let _ ← many g.limit do
        if ← eat .dot then return some (← anyWord) else return none
      return { node := ← block g, names := [name] }

/-- Reads a name for what another module exports, or for a member of a namespace. -/
def importedName (g : Grammar) : Reader Declaration := do
  expectWord "import"
  if (← isAtWord "type") && !(← nextToken).isMark .assign then advance
  let name ← variableName
  expect .assign
  if (← isAtWord "require") && (← nextToken).isMark .openParen then
    advance
    advance
    let _ ← stringText
    expect .closeParen
  else dottedName g
  endStatement
  return { node := Node.leaf, names := [name] }

/-- Whether a declaration starts here that only dialects with types have. The number bounds the
words looked at. -/
def startsTypedDeclaration : Nat → Reader Bool
  | 0 => return false
  | steps + 1 => do
    let t ← token
    let next ← nextToken
    if t.isWordOf ["var", "let", "const", "function", "class", "enum"] then return true
    else if t.isWordOf ["interface", "type"] then return next.isName && !next.onNewLine
    else if t.isWordOf ["module", "namespace"] then
      return (next.isName || next.isString) && !next.onNewLine
    else if t.isWordOf ["abstract", "accessor", "async", "declare", "private", "protected",
        "public", "readonly"] then
      advance
      if next.onNewLine then return false
      else if t.isWord "declare" && next.isWord "type" then return true
      else startsTypedDeclaration steps
    else if t.isWord "global" then
      return next.isMark .openBrace || next.isName || next.isWord "export"
    else if t.isWord "import" then
      return next.isString || next.isMark .star || next.isMark .openBrace || next.isAnyWord
    else if t.isWordOf ["export", "static"] then
      advance
      startsTypedDeclaration steps
    else return false

/-- Reads a declaration behind the given modifiers. Only a class can be abstract. -/
def plainDeclaration (g : Grammar) (words : List String) : Reader Declaration := do
  let t ← token
  let next ← nextToken
  check (words.all fun word => word = "declare" || word = "abstract" && t.isWord "class")
  if t.isWord "const" && next.isWord "enum" || t.isWord "enum" then
    check (← isTyped)
    enumDeclaration g
  else if t.isWordOf ["var", "let", "const"] then variableDeclaration g
  else if t.isWord "class" then classText g
  else if t.isWord "function" || t.isWord "async" && next.isWord "function" && !next.onNewLine then
    functionDeclaration g true false
  else
    check (← isTyped)
    if t.isWord "interface" then interfaceDeclaration g
    else if t.isWord "type" then aliasDeclaration g
    else if t.isWordOf ["module", "namespace", "global"] then namespaceDeclaration g
    else if t.isWord "import" then importedName g
    else failure

def declaration (g : Grammar) : Reader Declaration := do
  let typed ← isTyped
  let words ← iterate (fun seen => do
    let t ← token
    match t.kind with
    | .word ⟨text, false⟩ =>
      if typed && ["abstract", "accessor", "declare", "private", "protected", "public",
          "readonly", "static"].contains text && !(← nextToken).onNewLine then
        advance
        return some (text :: seen)
      else return none
    | _ => return none) g.limit []
  if words.contains "declare" then
    within (fun context => { context with ambient := true }) (plainDeclaration g words)
  else plainDeclaration g words

end ModuleBundler.Ecma.Grammar
