import Lunette.Proofs.Reading.Account

/-!
# The account of expressions

The tokens that an expression has been read from are a spelling of it, and so are those of
each phrase inside.  A call that stands inside an expression is the call of a name, because
the rule for operands looks for a name in front of an opening parenthesis.
-/

namespace Lunette.Rule

open Ast

/-- The cursor stands at a token that fills the first slot. -/
theorem kind_eq_of_filled {slot : Slot} {slots : List Slot} {cursor : Cursor}
    {tokens more : List Token} (restEq : cursor.rest = tokens ++ more)
    (filled : Slot.Filled (slot :: slots) tokens) : cursor.kind = slot.kind := by
  rcases Slot.filled_cons_iff.mp filled with ⟨token, rest, takes, -, rfl⟩
  rw [← takes.kind_eq]
  simp [Cursor.kind, restEq]

/-- What begins with a token of the kind of a name is a name, and what begins with a name or
an opening parenthesis can be called where a statement begins. -/
theorem callable_of_kind {callee : Primary} {cursor : Cursor} {tokens more : List Token}
    (restEq : cursor.rest = tokens ++ more)
    (spells : Spells Primary.Shaped Primary.written callee tokens) :
    (cursor.kind = .identifier → callee.IsName) ∧
      (cursor.kind = .openParen ∨ cursor.kind = .identifier → callee.IsCallable) := by
  cases callee with
  | paren value =>
      have kindEq := kind_eq_of_filled restEq spells.filled
      constructor
      · intro isName
        rw [isName] at kindEq
        cases kindEq
      · intro _
        exact trivial
  | term token =>
      have kindEq := kind_eq_of_filled restEq spells.filled
      change cursor.kind = token.kind at kindEq
      rw [kindEq]
      constructor
      · intro isName
        exact isName
      · intro isEither
        rcases isEither with isOpen | isName
        · rcases spells.shaped with isName | isLiteral
          · exact isName
          · rw [isOpen] at isLiteral
            cases isLiteral
        · exact isName

/-- A call begins with what it calls. -/
theorem callee_of_kind {inner : Call} {cursor : Cursor} {tokens more : List Token}
    (restEq : cursor.rest = tokens ++ more)
    (spells : Spells Call.Shaped Call.written inner tokens) :
    (cursor.kind = .identifier → inner.callee.IsName) ∧
      (cursor.kind = .openParen ∨ cursor.kind = .identifier → inner.callee.IsCallable) := by
  rcases inner with ⟨callee, args⟩
  rcases Slot.filled_append_iff.mp spells.filled with ⟨front, back, calleeFilled, -, rfl⟩
  rw [List.append_assoc] at restEq
  exact callable_of_kind restEq ⟨spells.shaped.1, calleeFilled⟩

theorem run_operandWith (exp : Rule Exp) (cursor : Cursor) :
    (operandWith exp).run cursor =
      if cursor.kind = .identifier ∧ cursor.nextKind = .openParen then
        (Operand.call <$> callWith exp : Rule Operand).run cursor
      else (Operand.primary <$> primaryWith exp : Rule Operand).run cursor := by
  change (if _ then _ else _ : Rule Operand).run cursor = _
  split <;> rfl

theorem underOperators_spells {ops : List Token} {operand : Operand} {tokens : List Token}
    (allUnary : ∀ op ∈ ops, op.kind.isUnaryOperator = true)
    (spells : Spells Operand.ShapedAlone Operand.written operand tokens) :
    Spells Unary.Shaped Unary.written (underOperators ops operand) (ops ++ tokens) := by
  induction ops with
  | nil => exact ⟨spells.shaped, spells.filled⟩
  | cons op ops inductionHypothesis =>
      have inner := inductionHypothesis fun other member =>
        allUnary other (List.mem_cons_of_mem op member)
      exact .prefixed (allUnary op List.mem_cons_self) inner

namespace Reads

theorem name :
    Reads name fun token tokens => token.kind = .identifier ∧ tokens = [token] :=
  expect (by decide)

section Nested

variable {exp : Rule Exp}

theorem primaryWith (nested : Reads exp (Spells Exp.Shaped Exp.written)) :
    Reads (primaryWith exp) (Spells Primary.Shaped Primary.written) := by
  apply accept_bind rfl
  · intro token isLiteral
    apply pure
    exact .term (Or.inr isLiteral)
  · apply accept_kind_bind (by decide)
    · intro opening isOpen
      apply nested.bind
      intro inner tokens spells
      apply expect_bind (by decide)
      intro closing isClose
      apply pure
      exact .paren isOpen spells isClose
    · apply name.bind
      rintro token _ ⟨isName, rfl⟩
      apply pure
      exact .term (Or.inl isName)

theorem argsWith (nested : Reads exp (Spells Exp.Shaped Exp.written)) :
    Reads (argsWith exp) (Spells Args.Shaped Args.written) := by
  apply expect_bind (by decide)
  intro opening isOpen
  apply accept_kind_bind (by decide)
  · intro closing isClose
    apply pure
    exact .noArgs isOpen isClose
  · apply nested.bind
    intro value tokens spells
    apply expect_bind (by decide)
    intro closing isClose
    apply pure
    exact .oneArg isOpen spells isClose

theorem callWith (nested : Reads exp (Spells Exp.Shaped Exp.written)) :
    Reads (callWith exp) (Spells Call.Shaped Call.written) := by
  apply (primaryWith nested).bind
  intro callee tokens calleeSpells
  apply (argsWith nested).bind
  intro args more argsSpells
  apply pure
  rw [List.append_nil]
  exact calleeSpells.call argsSpells

theorem operandWith (nested : Reads exp (Spells Exp.Shaped Exp.written)) :
    Reads (operandWith exp) (Spells Operand.ShapedAlone Operand.written) := by
  constructor
  intro cursor operand after okEq
  rw [run_operandWith] at okEq
  split at okEq
  · rename_i isCall
    have calls : Reads (Operand.call <$> Rule.callWith exp) fun operand tokens =>
        ∃ inner, operand = .call inner ∧ Spells Call.Shaped Call.written inner tokens :=
      (callWith nested).map fun inner _ spells => ⟨inner, rfl, spells⟩
    rcases calls.account okEq with ⟨tokens, restEq, inner, rfl, spells⟩
    have isName := (callee_of_kind restEq spells).1 isCall.1
    exact ⟨tokens, restEq, ⟨isName, spells.shaped⟩, spells.filled⟩
  · have single : Reads (Operand.primary <$> Rule.primaryWith exp)
        (Spells Operand.ShapedAlone Operand.written) :=
      (primaryWith nested).map fun _ _ spells => ⟨spells.shaped, spells.filled⟩
    exact single.account okEq

theorem unaryWith (nested : Reads exp (Spells Exp.Shaped Exp.written)) :
    Reads (unaryWith exp) (Spells Unary.Shaped Unary.written) := by
  apply unaryOperators.bind
  rintro ops _ ⟨rfl, allUnary⟩
  apply (operandWith nested).bind
  intro operand tokens spells
  apply pure
  rw [List.append_nil]
  exact underOperators_spells allUnary spells

theorem expWith (nested : Reads exp (Spells Exp.Shaped Exp.written)) :
    Reads (expWith exp) (Spells Exp.Shaped Exp.written) := by
  apply (unaryWith nested).bind
  intro left tokens leftSpells
  apply accept_bind rfl
  · intro op isBinary
    apply (unaryWith nested).bind
    intro right more rightSpells
    apply pure
    rw [List.append_nil]
    exact leftSpells.applied isBinary rightSpells
  · apply pure
    rw [List.append_nil]
    exact leftSpells.single

end Nested

theorem expWithin (bound : Nat) :
    Reads (expWithin bound) (Spells Exp.Shaped Exp.written) := by
  induction bound with
  | zero =>
      apply name.bind
      rintro token _ ⟨isName, rfl⟩
      apply pure
      exact ⟨Or.inl isName, .cons rfl .nil⟩
  | succ bound inductionHypothesis => exact expWith inductionHypothesis

/-- The tokens that an expression has been read from are a spelling of it. -/
theorem exp : Reads Rule.exp (Spells Exp.Shaped Exp.written) :=
  bounded expWithin

end Reads

end Lunette.Rule
