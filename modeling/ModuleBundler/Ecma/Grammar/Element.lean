import ModuleBundler.Ecma.Grammar.Pattern

namespace ModuleBundler.Ecma.Grammar

open Reader

def isTagChar (c : Char) : Bool := isNamePart c || c = '-'

/-- Reads a name in a tag, which may hold hyphens. -/
def tagWord : Reader String := do
  let t ← token
  check t.isAnyWord
  jump (t.start.dropWhile isTagChar)
  return String.ofList (t.start.takeWhile isTagChar)

/-- Reads names in a tag behind the one given, with points between them. -/
def tagPath (limit : Nat) (first : String) : Reader String :=
  iterate (fun name => do
    if ← eat .dot then return some (name ++ "." ++ (← tagWord)) else return none) limit first

/-- Reads the name of an element. A fragment has none. -/
def tagName (limit : Nat) : Reader String := do
  if ← isAt .greater then return ""
  else
    let first ← tagWord
    if ← eat .colon then return first ++ ":" ++ (← tagWord) else tagPath limit first

/-- Reads a string in a tag. It has no escapes and may run over lines. -/
def attributeText : Reader Node := do
  match (← token).start with
  | quote :: cs =>
    check (quote = '\x22' || quote = '\x27')
    match cs.dropWhile (· ≠ quote) with
    | _ :: cs =>
      jump cs
      return Node.leaf
    | [] => failure
  | [] => failure

def attributeValue (g : Grammar) : Reader Node := do
  if ← eat .openBrace then
    let node ← g.inner
    expect .closeBrace
    return node
  else if ← isAt .less then g.read (.element false)
  else attributeText

def tagAttribute (g : Grammar) : Reader Node := do
  if ← eat .openBrace then
    expect .ellipsis
    let node ← g.inner
    expect .closeBrace
    return node
  else
    let _ ← tagWord
    if ← eat .colon then
      let _ ← tagWord
    if ← eat .assign then attributeValue g else return Node.leaf

def tagAttributes (g : Grammar) : Reader (List Node) :=
  many g.limit do
    if (← isAt .greater) || (← isAt .slash) then return none else return some (← tagAttribute g)

def skipText : Reader Unit := do
  let cs ← rest
  let opens (c : Char) : Bool := c = '<' || c = '\x7b'
  check (!(cs.takeWhile fun c => !opens c).any fun c => c = '>' || c = '\x7d')
  place (cs.dropWhile fun c => !opens c)

/-- Reads a child of an element, unless the element ends. It stays at the last sign of the child,
behind which there is text again. -/
def child (g : Grammar) : Reader (Option Node) := do
  skipText
  if ← isAt .less then
    if (← nextToken).isMark .slash then return none
    else return some (← g.read (.element true))
  else
    expect .openBrace
    let node ← if ← isAt .closeBrace then pure Node.leaf else do
      let _ ← eat .ellipsis
      g.inner
    check (← isAt .closeBrace)
    return some node

/-- Reads the children of an element, up to its closing tag, and the name in it. -/
def children (g : Grammar) (name : String) : Reader (List Node) := do
  let nodes ← many g.limit (child g)
  expect .less
  expect .slash
  check ((← tagName g.limit) = name)
  return nodes

/-- Reads an element in angle brackets. The child of another one stays at its last bracket. -/
def markup (g : Grammar) (isChild : Bool) : Reader Node := do
  expect .less
  let name ← tagName g.limit
  let types ← if ← isTyped then optionalTypeArguments g else pure Node.leaf
  let settings ← if name.isEmpty then pure [] else tagAttributes g
  let closed ← eat .slash
  check (← isAt .greater)
  let nodes ← if closed then pure [] else children g name
  check (← isAt .greater)
  if !isChild then advance
  return Node.group (types :: settings ++ nodes)

end ModuleBundler.Ecma.Grammar
