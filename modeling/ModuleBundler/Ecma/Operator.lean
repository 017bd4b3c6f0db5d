import ModuleBundler.Ecma.Token

namespace ModuleBundler.Ecma

/-- What an operator between two operands does. -/
inductive Operator where
  /-- It joins two values, more tightly the greater the number. -/
  | join (tightness : Nat)
  | assign
  /-- It computes and assigns. -/
  | update
deriving DecidableEq, Repr

namespace Operator

/-- How tightly `??` binds. -/
def coalesce : Nat := 1

/-- How tightly `&&` binds. -/
def conjunction : Nat := 3

/-- How tightly comparisons bind. -/
def comparison : Nat := 8

/-- How tightly the only operator binds that joins from the right. -/
def power : Nat := 12

/-- The operator that begins with `>`, and its length. -/
def ofGreater : List Char → Operator × Nat
  | '>' :: '>' :: '>' :: '=' :: _ => (.update, 4)
  | '>' :: '>' :: '>' :: _ => (.join 9, 3)
  | '>' :: '>' :: '=' :: _ => (.update, 3)
  | '>' :: '>' :: _ => (.join 9, 2)
  | '>' :: '=' :: _ => (.join comparison, 2)
  | _ => (.join comparison, 1)

def ofMark? : Mark → Option Operator
  | .coalesce => some (.join coalesce)
  | .or => some (.join 2)
  | .and => some (.join conjunction)
  | .bar => some (.join 4)
  | .caret => some (.join 5)
  | .ampersand => some (.join 6)
  | .equality => some (.join 7)
  | .less | .lessEqual => some (.join comparison)
  | .shiftLeft => some (.join 9)
  | .plus | .minus => some (.join 10)
  | .star | .slash | .percent => some (.join 11)
  | .power => some (.join power)
  | .assign => some .assign
  | .update | .slashAssign | .shiftLeftAssign => some .update
  | _ => none

end Operator

/-- The operator that a token is or begins, leaving out those on types. -/
def Token.operator? (t : Token) : Option Operator :=
  match t.kind with
  | .mark .greater => some (Operator.ofGreater t.start).1
  | .mark m => Operator.ofMark? m
  | .word ⟨text, false⟩ =>
    if text = "in" ∨ text = "instanceof" then some (.join Operator.comparison) else none
  | _ => none

def Token.joins (t : Token) : Bool :=
  match t.operator? with
  | some (.join _) => true
  | _ => false

def Token.assigns (t : Token) : Bool :=
  match t.operator? with
  | some .assign => true
  | some .update => true
  | _ => false

def Token.startsExpression (t : Token) : Bool :=
  match t.kind with
  | .word w =>
    !Token.isReserved w.text ||
      ["this", "super", "null", "true", "false", "function", "class", "new", "import", "delete",
        "typeof", "void", "in", "instanceof"].contains w.text
  | .privateName _ | .string _ | .number | .template _ => true
  | .mark m =>
    [Mark.openParen, .openBracket, .openBrace, .slashAssign, .increment, .decrement, .tilde,
      .bang, .decorator].contains m || t.joins
  | _ => false

end ModuleBundler.Ecma
