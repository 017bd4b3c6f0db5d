import ModuleBundler.Proofs.Ecma.Reading

namespace ModuleBundler.Ecma.Grammar

open Reader

section Values

/-- The token is a string, or a name that is no keyword anywhere. -/
def StartsValue (t : Token) : Prop :=
  (∃ v, t.kind = .string v) ∨ t.kind = .word ⟨"require", false⟩

/-- No value goes on with the token. -/
def EndsValue (t : Token) : Prop := t.kind = .mark .closeParen ∨ t.kind = .mark .semicolon

variable {g : Grammar}

theorem arrowFunction?_eq_none (hc : StartsValue c.token) (returnType : Bool) :
    arrowFunction? g returnType inModule c = some (none, c) := by
  rcases hc with ⟨v, hc⟩ | hc
  all_goals simp [arrowFunction?, arrowLikelihood, startsAsyncName, hc]

theorem unary_of_access (hc : StartsValue c.token) (hd : EndsValue d.token)
    (h : g.read .access inModule c = some (n, d)) : unary g inModule c = some (n, d) := by
  have hplain : isUnaryOperator c.token = false ∧ c.token.kind ≠ .word ⟨"await", false⟩ ∧
      c.token.kind ≠ .mark .less ∧ c.token.kind ≠ .mark .increment ∧
      c.token.kind ≠ .mark .decrement := by
    rcases hc with ⟨v, hc⟩ | hc
    all_goals simp [isUnaryOperator, Token.isWordOf, hc]
  have hbehind : d.token.kind ≠ .mark .increment ∧ d.token.kind ≠ .mark .decrement := by
    rcases hd with hd | hd
    all_goals simp [hd]
  simp [unary, updated, hplain, hbehind, h]

theorem operation_of_access (hc : StartsValue c.token) (hd : EndsValue d.token)
    (h : g.read .access inModule c = some (n, d)) (hlimit : 0 < g.limit) :
    operation g 0 inModule c = some (n, d) := by
  have hstep : operationStep g 0 n inModule d = some (none, d) := by
    rcases hd with hd | hd
    all_goals simp [operationStep, Token.operator?, Operator.ofMark?, hd]
  have hrest := (bind_of (unary_of_access hc hd h)).trans (iterate_done hstep hlimit)
  rcases hc with ⟨v, hc⟩ | hc
  all_goals
    simp only [operation, bind_apply, token_apply, Option.bind_some, hc]
    exact hrest

theorem assignment_of_access (hc : StartsValue c.token) (hd : EndsValue d.token)
    (h : g.read .access inModule c = some (n, d)) (hlimit : 0 < g.limit) (returnType : Bool) :
    assignmentExpression g returnType inModule c = some (n, d) := by
  have hyield : startsYield inModule c = some (false, c) := by
    rcases hc with ⟨v, hc⟩ | hc
    all_goals simp [startsYield, hc]
  have hrest : assignmentRest g returnType n inModule d = some (n, d) := by
    rcases hd with hd | hd
    all_goals simp [assignmentRest, choice, Token.operator?, Operator.ofMark?, hd]
  simp [assignmentExpression, hyield, arrowFunction?_eq_none hc returnType,
    operation_of_access hc hd h hlimit, hrest]

theorem expression_of_assignment (hd : EndsValue d.token)
    (h : g.assignment inModule c = some (n, d)) (hlimit : 0 < g.limit) :
    expression g inModule c = some (n, d) := by
  have hothers : many g.limit (do
      if ← eat .comma then return some (← g.assignment) else return none) inModule d =
        some ([], d) := by
    refine ReadsAll.many_eq (.done ?_) hlimit
    rcases hd with hd | hd
    all_goals simp [hd]
  simp [expression, h, hothers]

theorem accessStep_eq_none (hd : EndsValue d.token) (n : Node) (optional : Bool) :
    accessStep g true (n, optional) inModule d = some (none, d) := by
  rcases hd with hd | hd
  all_goals simp [accessStep, hd]

end Values

section Nested

/-- The readers of parts with at most the given number of parts inside each other. -/
def nested (depth : Nat) : Grammar := ⟨depth, readNested depth⟩

theorem read_nested (depth : Nat) (part : Part) :
    (nested (depth + 1)).read part = readPart (nested depth) part := rfl

theorem access_string (depth : Nat) (hc : c.token.kind = .string v)
    (hd : EndsValue (c.next false).token) :
    access (nested (depth + 1)) inModule c = some (.string v, c.next false) := by
  have hstart : superOr (primary (nested depth)) inModule c =
      some (.string v, c.next false) := by
    simp [superOr, primary, hc]
  have hstop := accessStep_eq_none (g := nested (depth + 1)) hd (.string v) false
  simp only [access, read_nested, readPart, bind_apply, hstart, Option.bind_some]
  exact bind_of (iterate_done hstop (Nat.succ_pos depth))

theorem assignment_string (depth : Nat) (hc : c.token.kind = .string v)
    (hd : EndsValue (c.next false).token) :
    (nested (depth + 3)).assignment inModule c = some (.string v, c.next false) :=
  assignment_of_access (.inl ⟨v, hc⟩) hd (access_string depth hc hd) (Nat.succ_pos _) true

theorem arguments_string (depth : Nat)
    (h : c.Spans [.mark .openParen, .string v, .mark .closeParen] d) :
    arguments (nested (depth + 3)) inModule c = some ([.string v], d) := by
  obtain ⟨hopen, hstring, hclose, rfl⟩ := h
  have hargument : argument (nested (depth + 3)) inModule (c.next false) =
      some (.string v, (c.next false).next false) := by
    simp [argument, hstring, assignment_string depth hstring (.inl hclose)]
  have hread : ReadsItems .closeParen (argument (nested (depth + 3))) inModule (c.next false)
      [.string v] ((c.next false).next false) :=
    .last (by simp [hstring]) hargument hclose
  have hlimit : 1 < (nested (depth + 3)).limit := Nat.lt_add_left depth (by decide)
  obtain ⟨trailing, hlist⟩ := hread.commaList_eq (by decide) hlimit
  have henclosed (p : Reader (List Node × Bool)) : enclosed p inModule = p inModule := rfl
  simp [arguments, bracketed, henclosed, hopen, hclose, hlist]

/-- A call of `require` with a string. -/
def requireCall (v : String) : Node := .call (.name "require") .leaf [.string v]

theorem access_require (depth : Nat)
    (h : c.Spans [.word ⟨"require", false⟩, .mark .openParen, .string v, .mark .closeParen] d)
    (hd : EndsValue d.token) :
    access (nested (depth + 4)) inModule c = some (requireCall v, d) := by
  obtain ⟨hname, hopen, h⟩ := h
  have hstart : superOr (primary (nested (depth + 3))) inModule c =
      some (.name "require", c.next false) := by
    simp [superOr, primary, wordValue, startsFunction, identifier, variableName,
      Token.isWordOf, Token.isReserved, hname]
  have hcall : accessStep (nested (depth + 4)) true (.name "require", false) inModule
      (c.next false) = some (some (requireCall v, false), d) := by
    simp [accessStep, hopen, arguments_string (depth + 1) ⟨hopen, h⟩, callOf, splitTypes,
      requireCall]
  have hchain : iterate (accessStep (nested (depth + 4)) true) (depth + 4)
      (.name "require", false) inModule (c.next false) = some ((requireCall v, false), d) := by
    simp [iterate, hcall, accessStep_eq_none hd]
  simp only [access, read_nested, readPart, bind_apply, hstart, Option.bind_some]
  exact bind_of hchain

end Nested

section Statements

theorem requestedModule_spans (g : Grammar) (h : c.Spans [.string v, .mark .semicolon] d) :
    requestedModule g false inModule c = some (.request v, d) := by
  obtain ⟨hstring, hend, rfl⟩ := h
  simp [requestedModule, stringText, requestSettings, endStatement,
    hstring, hend]

theorem statement_import (g : Grammar)
    (h : c.Spans [.word ⟨"import", false⟩, .string v, .mark .semicolon] d) :
    statement g false inModule c = some (.request v, d) := by
  obtain ⟨hword, h⟩ := h
  have hdeclaration : importDeclaration g inModule c = some (.request v, d) := by
    simp [importDeclaration, Token.isString, hword, h.1, requestedModule_spans g h]
  simp [statement, undecorated, wordStatement, hword, h.1, hdeclaration]

theorem statement_export (g : Grammar)
    (h : c.Spans [.word ⟨"export", false⟩, .mark .star, .word ⟨"from", false⟩, .string v,
      .mark .semicolon] d) :
    statement g false inModule c = some (.group [.request v, .leaf], d) := by
  obtain ⟨hword, hstar, hfrom, h⟩ := h
  have hall : allExports g false inModule (c.next false) =
      some (.group [.request v, .leaf], d) := by
    simp [allExports, hstar, hfrom, requestedModule_spans g h]
  have hdeclaration : exportDeclaration g inModule c =
      some (.group [.request v, .leaf], d) := by
    simp [exportDeclaration, typedExport?, hword, hstar, hall]
  simp [statement, undecorated, wordStatement, hword, hdeclaration]

theorem statement_require (depth : Nat)
    (h : c.Spans ([.word ⟨"require", false⟩, .mark .openParen, .string v, .mark .closeParen] ++
      [.mark .semicolon]) d) :
    statement (nested (depth + 7)) false inModule c = some (requireCall v, d) := by
  obtain ⟨e, hcall, hend, rfl⟩ := Cursor.spans_append.mp h
  have hstop : EndsValue e.token := .inr hend
  have hassignment := assignment_of_access (g := nested (depth + 5)) (.inr hcall.1) hstop
    (access_require depth hcall hstop) (Nat.succ_pos (depth + 4)) true
  have hexpression := expression_of_assignment (g := nested (depth + 6)) hstop hassignment
    (Nat.succ_pos (depth + 5))
  have hstatement : expressionStatement (nested (depth + 7)) inModule c =
      some (requireCall v, e.next false) := by
    simp [expressionStatement, read_nested, readPart, hexpression, requireCall,
      endStatement, hend]
  simp [statement, undecorated, wordStatement, otherStatement, startsFunction,
    Token.isWordOf, hcall.1, hstatement]

end Statements

end ModuleBundler.Ecma.Grammar
