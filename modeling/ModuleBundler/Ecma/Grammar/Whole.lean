import ModuleBundler.Ecma.Grammar.Element
import ModuleBundler.Ecma.Grammar.Statement

namespace ModuleBundler.Ecma

open Reader

namespace Grammar

/-- Reads a part, and the parts inside it by the given grammar. -/
def readPart (g : Grammar) : Part → Reader Node
  | .assignment returnType => assignmentExpression g returnType
  | .expression => expression g
  | .operation above => operation g above
  | .unary => unary g
  | .operand => operand g
  | .primary => primary g
  | .access => access g
  | .statement single => statement g single
  | .pattern => pattern g
  | .type => wholeType g
  | .typeOperand => typeOperand g
  | .element child => markup g child

/-- Reads a part with at most the given number of parts inside each other. -/
def readNested : Nat → Part → Reader Node
  | 0, _ => failure
  | depth + 1, part => readPart ⟨depth, readNested depth⟩ part

/-- The grammar for a text of the given length. Between two characters of a text fewer parts can
start inside each other than it allows. -/
def ofLength (n : Nat) : Grammar :=
  let limit := 64 * (n + 16)
  ⟨limit, readNested limit⟩

def source (g : Grammar) : Reader Node := do
  return Node.group (← many g.limit do
    if (← token).kind = .ending then return none else return some (← g.read (.statement false)))

end Grammar

def Dialect.context (d : Dialect) : Context :=
  { dialect := d, awaits := !d.script, ambient := d.ambient }

/-- The tree of a text, if it follows the grammar. Without types no name is exported twice. -/
def tree? (d : Dialect) (cs : List Char) : Option Node :=
  match (Grammar.ofLength cs.length).source d.context (Cursor.first d.script cs) with
  | some (node, _) =>
    if node.isComplete && (d.typed || decide (node.exportsBefore []).Nodup) then some node else none
  | none => none

end ModuleBundler.Ecma
