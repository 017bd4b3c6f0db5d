import ModuleBundler.Ecma.StringValue

namespace ModuleBundler.Ecma

/-- What one more character of a template does. -/
inductive TemplateStep where
  | go (valid : Bool) (state : EscapeState)
  /-- The template ends. -/
  | close (valid : Bool)
  /-- A substitution starts. -/
  | open (valid : Bool)
deriving DecidableEq, Repr

/-- One character outside an escape; `next` is the one after it. -/
def templatePlain (valid : Bool) (c : Char) (next : Option Char) : TemplateStep :=
  if c = '\x60' then .close valid
  else if c = '$' ∧ next = some '\x7b' then .open valid
  else if c = '\\' then .go valid .backslash
  else .go valid .plain

/-- One character of a template. A wrong escape makes the part invalid, and the character that
shows this is read as any other. A zero is an escape if no digit follows; there are no others by
digits in base 8. -/
def templateStep (valid : Bool) (state : EscapeState) (c : Char) (next : Option Char) :
    TemplateStep :=
  match state with
  | .plain => templatePlain valid c next
  | .backslash =>
    if c = '0' then .go valid (.octal 0 0)
    else if c.isDigit then .go false .plain
    else if c = 'x' then .go valid (.digits 2 0)
    else if c = 'u' then .go valid .unicode
    else .go valid .plain
  | .octal _ _ => templatePlain (valid && !c.isDigit) c next
  | state =>
    match escapeStep '\x60' state c with
    | .go _ state => .go valid state
    | _ => templatePlain false c next

/-- A part of a template: whether its escapes are right and whether it is the last part. -/
structure TemplatePart where
  valid : Bool
  closed : Bool
deriving DecidableEq, Repr

/-- Reads a part of a template, behind the backtick or the closing brace before it. -/
def readTemplate (valid : Bool) : EscapeState → List Char → Option (TemplatePart × List Char)
  | _, [] => none
  | state, c :: cs =>
    match templateStep valid state c cs.head? with
    | .close valid => some (⟨valid, true⟩, cs)
    | .open valid => some (⟨valid, false⟩, cs.tail)
    | .go valid state => readTemplate valid state cs

end ModuleBundler.Ecma
