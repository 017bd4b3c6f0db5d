import ModuleBundler.Ecma.Grammar.Declaration
import ModuleBundler.Ecma.Grammar.Primary

namespace ModuleBundler.Ecma.Grammar

open Reader

/-- A name under which a module exports something, which may be written as a string. -/
structure ExchangeName where
  text : String
  isString : Bool
deriving DecidableEq, Repr

def exchangeName : Reader ExchangeName := do
  match (← token).kind with
  | .word w =>
    advance
    return ⟨w.text, false⟩
  | .string value =>
    advance
    return ⟨value, true⟩
  | _ => failure

/-- An element of a list of imports or exports: a name where it comes from and one where it goes
to. -/
structure Exchange where
  source : ExchangeName
  target : ExchangeName

def exchangeRest (source : ExchangeName) : Reader Exchange := do
  if ← eatWord "as" then return ⟨source, ← exchangeName⟩ else return ⟨source, source⟩

def startsExchangeName : Reader Bool := do
  let t ← token
  return t.isAnyWord || t.isString

/-- Reads an element that starts with the word for types, which may be a name itself. -/
def typeExchange : Reader Exchange := do
  let type : ExchangeName := ⟨"type", false⟩
  let as : ExchangeName := ⟨"as", false⟩
  expectWord "type"
  if ← eatWord "as" then
    if ← eatWord "as" then
      if ← startsExchangeName then return ⟨as, ← exchangeName⟩ else return ⟨type, as⟩
    else if ← startsExchangeName then return ⟨type, ← exchangeName⟩
    else return ⟨as, as⟩
  else if ← startsExchangeName then exchangeRest (← exchangeName)
  else return ⟨type, type⟩

def exchange : Reader Exchange := do
  if (← isTyped) && (← isAtWord "type") then typeExchange
  else exchangeRest (← exchangeName)

def exchanges (g : Grammar) : Reader (List Exchange) := do
  return (← bracketed g.limit .openBrace .closeBrace exchange).1

/-- Reads what a request asks for besides the module. The older word for it stands on the same
line. -/
def requestSettings (g : Grammar) : Reader Unit := do
  let t ← token
  if t.isWord "with" || t.isWord "assert" && !t.onNewLine then
    advance
    let _ ← bracketed g.limit .openBrace .closeBrace do
      let _ ← exchangeName
      expect .colon
      stringText

/-- Reads the module that a request names, and the end of the statement. -/
def requestedModule (g : Grammar) (typeOnly : Bool) : Reader Node := do
  let specifier ← stringText
  requestSettings g
  endStatement
  return if typeOnly then Node.leaf else .request specifier

def namespaceImport : Reader Unit := do
  expect .star
  expectWord "as"
  let _ ← variableName

/-- Reads a list of imports, each of which gets the name of a variable. -/
def namedImports (g : Grammar) : Reader Unit := do
  let awaits := (← context).awaits
  let elements ← exchanges g
  check (elements.all fun e =>
    !e.target.isString && !Token.isReserved e.target.text && !(awaits && e.target.text = "await"))

def importList (g : Grammar) : Reader Unit := do
  if ← isAt .star then namespaceImport else namedImports g

/-- Whether the name of a default import is left out before the word that a module follows. -/
def endsWithFrom : Reader Bool := do
  advance
  advance
  isAtWord "from"

def qualifiesImport : Reader Bool := do
  let t ← token
  let next ← nextToken
  let named := next.isName && (!next.isWord "from" || (← foresee endsWithFrom))
  if t.isWord "type" && (← isTyped) then
    return named || next.isMark .star || next.isMark .openBrace
  else if t.isWord "source" then return named
  else return t.isWord "defer" && next.isMark .star

/-- Whether the import here gives a name to what another module exports as a whole. -/
def startsImportedName : Reader Bool := do
  advance
  let t ← token
  let next ← nextToken
  if t.isName && next.isMark .assign then return true
  else
    expectWord "type"
    check (← token).isName
    advance
    isAt .assign

def importDeclaration (g : Grammar) : Reader Node := do
  if (← isTyped) && (← foresee startsImportedName) then return (← importedName g).node
  else
    expectWord "import"
    if (← token).isString then requestedModule g false
    else
      let qualified ← qualifiesImport
      let typeOnly := qualified && (← isAtWord "type")
      if qualified then advance
      if (← token).isName then
        let _ ← variableName
        if ← eat .comma then importList g
      else importList g
      expectWord "from"
      requestedModule g typeOnly

def moduleReserved : List String :=
  ["implements", "interface", "let", "package", "private", "protected", "public", "static",
    "yield"]

/-- Reads a list of exports, from another module or of variables. -/
def namedExports (g : Grammar) (typeOnly : Bool) : Reader Node := do
  let elements ← exchanges g
  let exported := elements.map fun e => Node.exported e.target.text
  if ← eatWord "from" then return Node.group [← requestedModule g typeOnly, Node.group exported]
  else
    check (elements.all fun e => !e.source.isString && !Token.isReserved e.source.text &&
      !moduleReserved.contains e.source.text)
    endStatement
    return Node.group exported

def allExports (g : Grammar) (typeOnly : Bool) : Reader Node := do
  expect .star
  let exported ← if ← eatWord "as" then do
      let name ← exchangeName
      pure (Node.exported name.text)
    else pure Node.leaf
  expectWord "from"
  return Node.group [← requestedModule g typeOnly, exported]

def defaultExport (g : Grammar) : Reader Node := do
  let marks ← decorators g
  let t ← token
  let next ← nextToken
  let typed ← isTyped
  let node ←
    if t.isWord "class" then pure (← classText g).node
    else if typed && t.isWord "abstract" && next.isWord "class" then do
      advance
      pure (← classText g).node
    else do
      check marks.isEmpty
      if ← startsFunction then pure (← functionDeclaration g false false).node
      else if typed && t.isWord "interface" && next.isName && !next.onNewLine then
        pure (← interfaceDeclaration g).node
      else do
        let node ← g.assignment
        endStatement
        pure node
  return Node.group (marks ++ [node, .exported "default"])

/-- Reads an export that only dialects with types have, if there is one. -/
def typedExport? (g : Grammar) : Reader (Option Node) := do
  let t ← token
  let next ← nextToken
  if !(← isTyped) then return none
  else if t.isMark .assign then
    advance
    let node ← g.read .expression
    endStatement
    return some node
  else if t.isWord "as" && next.isWord "namespace" then
    advance
    advance
    let _ ← variableName
    endStatement
    return some Node.leaf
  else if t.isWord "type" && (next.isMark .openBrace || next.isMark .star) then
    advance
    return some (← if next.isMark .star then allExports g true else namedExports g true)
  else return none

def exportsClass : Reader Bool := do
  expectWord "export"
  let _ ← eatWord "default"
  let _ ← eatWord "declare"
  let _ ← eatWord "abstract"
  isAtWord "class"

def exportDeclaration (g : Grammar) : Reader Node := do
  expectWord "export"
  match ← typedExport? g with
  | some node => return node
  | none =>
    if ← eatWord "default" then defaultExport g
    else if ← isAt .star then allExports g false
    else if ← isAt .openBrace then namedExports g false
    else
      let marks ← decorators g
      check (marks.isEmpty || (← token).isWordOf ["class", "abstract", "declare"])
      let d ← declaration g
      return Node.group (marks ++ [d.node, Node.group (d.names.map Node.exported)])

end ModuleBundler.Ecma.Grammar
