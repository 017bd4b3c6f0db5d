import ModuleBundler.Ecma.Cursor
import ModuleBundler.Ecma.Dialect
import ModuleBundler.Ecma.Tree

namespace ModuleBundler.Ecma

/-- What may stand in the part that is read. -/
structure Context where
  dialect : Dialect
  /-- `in` as an operator. -/
  inOperator : Bool := true
  /-- `await` as an operator, and then not as a name. -/
  awaits : Bool := false
  /-- `yield` as an operator, and then not as a name. -/
  yields : Bool := false
  returns : Bool := false
  /-- Inside a decorator, where brackets do not belong to it. -/
  decorator : Bool := false
  /-- Declarations without values. -/
  ambient : Bool := false
  conditionalTypes : Bool := true
deriving DecidableEq, Repr

def Reader (α : Type) : Type := Context → Cursor → Option (α × Cursor)

namespace Reader

instance : Monad Reader where
  pure a := fun _ cursor => some (a, cursor)
  bind p f := fun context cursor =>
    match p context cursor with
    | some (a, next) => f a context next
    | none => none

def failure : Reader α := fun _ _ => none

instance : Inhabited (Reader α) := ⟨failure⟩

def token : Reader Token := fun _ cursor => some (cursor.token, cursor)

def context : Reader Context := fun context cursor => some (context, cursor)

def rest : Reader (List Char) := fun _ cursor => some (cursor.rest, cursor)

def advance : Reader Unit := fun context cursor =>
  some ((), cursor.next context.dialect.script)

def jump (cs : List Char) : Reader Unit := fun context _ =>
  some ((), Cursor.ofText context.dialect.script false cs)

def place (cs : List Char) : Reader Unit := fun _ _ => some ((), Cursor.here false cs)

def check (condition : Bool) : Reader Unit := if condition then pure () else failure

def within (change : Context → Context) (p : Reader α) : Reader α := fun context cursor =>
  p (change context) cursor

def attempt (p : Reader α) : Reader (Option α) := fun context cursor =>
  match p context cursor with
  | some (a, next) => some (some a, next)
  | none => some (none, cursor)

/-- Looks ahead: what would be read if it can, with everything left in place. -/
def ahead (p : Reader α) : Reader (Option α) := fun context cursor =>
  some ((p context cursor).map Prod.fst, cursor)

/-- Whether the test, which looks ahead, says so. -/
def foresee (p : Reader Bool) : Reader Bool := fun context cursor =>
  match p context cursor with
  | some (b, _) => some (b, cursor)
  | none => some (false, cursor)

/-- Takes steps, at most as many as the number says, until one of them adds nothing. -/
def iterate (step : α → Reader (Option α)) : Nat → α → Context → Cursor → Option (α × Cursor)
  | 0, _, _, _ => none
  | steps + 1, a, context, cursor =>
    match step a context cursor with
    | some (some b, next) => iterate step steps b context next
    | some (none, next) => some (a, next)
    | none => none

/-- Reads parts, at most as many as the number says, until there are no more. -/
def many (limit : Nat) (p : Reader (Option α)) : Reader (List α) := fun context cursor =>
  match iterate (fun seen => do return (← p).map (· :: seen)) limit [] context cursor with
  | some (seen, next) => some (seen.reverse, next)
  | none => none

def isAt (m : Mark) : Reader Bool := do return (← token).isMark m

def isAtWord (text : String) : Reader Bool := do return (← token).isWord text

/-- Reads the punctuator if it is here; says whether it was. -/
def eat (m : Mark) : Reader Bool := do
  if (← token).isMark m then
    advance
    return true
  else return false

/-- Reads the keyword if it is here; says whether it was. -/
def eatWord (text : String) : Reader Bool := do
  if (← token).isWord text then
    advance
    return true
  else return false

def expect (m : Mark) : Reader Unit := do
  check ((← token).isMark m)
  advance

def expectWord (text : String) : Reader Unit := do
  check ((← token).isWord text)
  advance

def nextToken : Reader Token := fun context cursor =>
  some ((cursor.next context.dialect.script).token, cursor)

def isTyped : Reader Bool := do return (← context).dialect.typed

def isJsx : Reader Bool := do return (← context).dialect.jsx

/-- Reads what stands inside brackets, where all operators are. -/
def enclosed (p : Reader α) : Reader α :=
  within (fun context => { context with inOperator := true, decorator := false }) p

/-- Reads items with commas between them, and maybe one after them, up to the closing punctuator,
which is left. Says whether there is a comma after them. -/
def commaList (limit : Nat) (closing : Mark) (item : Reader α) : Reader (List α × Bool) := do
  let items ← many limit do
    if (← token).isMark closing then return none
    else
      let a ← item
      if (← token).isMark closing then return some (a, false)
      else
        expect .comma
        return some (a, true)
  return (items.map Prod.fst, items.getLast?.any Prod.snd)

def bracketed (limit : Nat) (opening closing : Mark) (item : Reader α) :
    Reader (List α × Bool) := do
  expect opening
  let items ← enclosed (commaList limit closing item)
  expect closing
  return items

/-- Reads items with commas between them, at least one. -/
def someItems (limit : Nat) (item : Reader α) : Reader (List α) := do
  let first ← item
  let others ← many limit do
    if ← eat .comma then return some (← item) else return none
  return first :: others

/-- Reads the end of a statement: a semicolon, or a place where it can be left out. -/
def endStatement : Reader Unit := do
  let t ← token
  if t.isMark .semicolon then advance else check t.mayEnd

def variableName : Reader String := do
  let { awaits, yields, .. } ← context
  match (← token).kind with
  | .word w =>
    check (!Token.isReserved w.text && !(awaits && w.text = "await") &&
      !(yields && w.text = "yield"))
    advance
    return w.text
  | _ => failure

def identifier : Reader Node := do return .name (← variableName)

def anyWord : Reader String := do
  match (← token).kind with
  | .word w =>
    advance
    return w.text
  | _ => failure

def stringText : Reader String := do
  match (← token).kind with
  | .string value =>
    advance
    return value
  | _ => failure

end Reader

/-- The parts of a text that contain parts of their own kind. -/
inductive Part where
  /-- An expression without commas. After a colon, an arrow function with a type behind its
  parameters is one only if another colon follows. -/
  | assignment (returnType : Bool)
  | expression
  /-- Operands joined by operators that bind more tightly than the number says. -/
  | operation (above : Nat)
  | unary
  /-- An operand that no operator of two operands separates. -/
  | operand
  | primary
  /-- A chain of properties and calls. -/
  | access
  /-- A statement, which cannot be any declaration where only a single statement may stand. -/
  | statement (single : Bool)
  /-- What a declaration or a parameter binds. -/
  | pattern
  | type
  /-- A type that no operator of two types separates. -/
  | typeOperand
  /-- An element in angle brackets, which may be the child of another. -/
  | element (child : Bool)
deriving DecidableEq, Repr

/-- Readers of the parts inside the one that is read. -/
structure Grammar where
  /-- More repetitions than the text has room for. -/
  limit : Nat
  read : Part → Reader Node

namespace Grammar

def assignment (g : Grammar) : Reader Node := g.read (.assignment true)

def item (g : Grammar) : Reader Node := Reader.enclosed g.assignment

def inner (g : Grammar) : Reader Node := Reader.enclosed (g.read .expression)

def type (g : Grammar) : Reader Node := g.read .type

def condition (g : Grammar) : Reader Node := do
  Reader.expect .openParen
  let node ← g.inner
  Reader.expect .closeParen
  return node

end Grammar

end ModuleBundler.Ecma
