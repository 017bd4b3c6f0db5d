import ModuleBundler.Ecma.Grammar.Function

namespace ModuleBundler.Ecma.Grammar

open Reader

/-- The key of a member. -/
structure MemberKey where
  node : Node
  /-- The name, if it is not computed. -/
  name? : Option String

def memberKey (g : Grammar) : Reader MemberKey := do
  match (← token).kind with
  | .word w =>
    advance
    return ⟨.compound .key [], some w.text⟩
  | .string value =>
    advance
    return ⟨.compound .key [], some value⟩
  | .privateName w =>
    check (w.text ≠ "constructor")
    advance
    return ⟨.compound .key [], none⟩
  | _ => return ⟨← key g, none⟩

/-- Words that say how a member can be used, where there are types. -/
def memberModifiers : List String :=
  ["async", "accessor", "static", "declare", "abstract"] ++ parameterModifiers

/-- Reads the modifiers before a member, last one first. -/
def modifiers (g : Grammar) : Reader (List String) :=
  iterate (fun seen => do
    let t ← token
    let next ← nextToken
    let words := if ← isTyped then memberModifiers else ["async", "accessor", "static"]
    match t.kind with
    | .word ⟨text, false⟩ =>
      let follows := next.startsKey || next.isMark .star || next.isMark .openBrace
      if words.contains text && follows && (text = "static" || !next.onNewLine) &&
          !seen.contains text && seen.head? ≠ some "async" then
        advance
        return some (text :: seen)
      else return none
    | _ => return none) g.limit []

def fieldValue (g : Grammar) : Reader Node := do
  if ← eat .assign then
    within (Flavor.enter {}) g.assignment
  else return Node.leaf

def memberRest (g : Grammar) (words : List String) (generator : Bool) (name : MemberKey) :
    Reader Node := do
  let typed ← isTyped
  let isStatic := words.contains "static"
  let asynchronous := words.contains "async"
  check (!(isStatic && name.name? = some "prototype"))
  if typed then
    if !(← eat .question) then
      let _ ← eat .bang
  if (← isAt .openParen) || typed && (← isAt .less) then
    check (!words.contains "accessor")
    check (isStatic || name.name? ≠ some "constructor" || !(asynchronous || generator))
    return (← method g { asynchronous, generator }).node
  else
    check (!(asynchronous || generator) && name.name? ≠ some "constructor")
    let type ← annotation g
    let value ← fieldValue g
    endStatement
    return Node.group [type, value]

def memberAccessor (g : Grammar) (words : List String) : Reader Node := do
  let gets ← isAtWord "get"
  advance
  let name ← memberKey g
  check (words.contains "static" || name.name? ≠ some "constructor")
  check (!(words.contains "static" && name.name? = some "prototype"))
  return Node.group [name.node, ← if gets then getter g else setter g]

def staticBlock (g : Grammar) : Reader Node := do
  advance
  within (fun context =>
    { context with
      inOperator := true
      decorator := false
      awaits := true
      yields := false
      returns := false }) (block g)

def member (g : Grammar) : Reader Node := do
  let marks ← decorators g
  let t ← token
  let next ← nextToken
  if t.isWord "static" && next.isMark .openBrace then staticBlock g
  else
    let words ← modifiers g
    let generator ← eat .star
    let t ← token
    let next ← nextToken
    let node ← if t.isWordOf ["get", "set"] && next.startsKey && !generator &&
          !words.contains "async" then memberAccessor g words
      else if (← isTyped) && (← foresee startsIndex) then do
        let node ← indexMember g
        endStatement
        pure node
      else do
        let name ← memberKey g
        pure (Node.group [name.node, ← memberRest g words generator name])
    return Node.group (marks ++ [node])

def classBody (g : Grammar) : Reader Node := do
  expect .openBrace
  let members ← enclosed (many g.limit do
    if ← isAt .closeBrace then return none
    else if ← eat .semicolon then return some Node.leaf
    else return some (← member g))
  expect .closeBrace
  return Node.group members

def typeList (g : Grammar) : Reader Node := do
  return Node.group (← someItems g.limit do
    dottedName g
    optionalTypeArguments g)

def heritage (g : Grammar) : Reader Node := do
  let base ← if ← eatWord "extends" then do
      let value ← g.read .access
      let types ← if ← isTyped then optionalTypeArguments g else pure Node.leaf
      pure (Node.group [value, types])
    else pure Node.leaf
  let types ← if (← isTyped) && (← eatWord "implements") then typeList g else pure Node.leaf
  return Node.group [base, types]

/-- A declaration and the names it declares. -/
structure Declaration where
  node : Node
  names : List String := []

def classText (g : Grammar) : Reader Declaration := do
  expectWord "class"
  let t ← token
  let names ← if t.isName && !t.isWord "implements" then pure [← variableName] else pure []
  let types ← typeParameters g
  let base ← heritage g
  return { node := Node.group [types, base, ← classBody g], names }

end ModuleBundler.Ecma.Grammar
