import Lunette.Proofs.Reading.Recovery

/-!
# Expressions are recovered

A shaped expression is recovered from every spelling of it, provided that what follows can
neither go on as a second operand nor turn a name at the end into a call.
-/

namespace Lunette.Rule

open Ast

/-- No expression goes on at the cursor. -/
structure EndsExp (after : Cursor) : Prop where
  notOpen : after.kind ≠ .openParen
  notBinary : after.kind.isBinaryOperator = false

/-- An expression ends in front of a token that goes on with none. -/
theorem endsExp_before_cons {kind : Kind} {token : Token} {tokens : List Token}
    {after : Cursor} (isKind : token.kind = kind) (notOpen : kind ≠ .openParen)
    (notBinary : kind.isBinaryOperator = false) : EndsExp (after.before (token :: tokens)) := by
  subst kind
  exact ⟨notOpen, notBinary⟩

/-- An expression begins with a token that can begin one. -/
theorem startsExp_before {value : Exp} {tokens : List Token} {after : Cursor}
    (shaped : value.Shaped) (filled : Slot.Filled value.written tokens) :
    (after.before tokens).kind.startsExp = true := by
  rcases shaped.head_written with ⟨slot, rest, writtenEq, starts⟩
  rw [writtenEq] at filled
  rwa [Cursor.kind_before_of_filled filled]

theorem ne_of_startsExp {kind other : Kind} (starts : kind.startsExp = true)
    (notStarts : other.startsExp = false) : kind ≠ other := by
  rintro rfl
  rw [starts] at notStarts
  cases notStarts

namespace Recovers

variable {tokens : List Token} {after : Cursor}

/-! ## Operands and prefix operators -/

theorem exp_iff {value : Exp} :
    Recovers Rule.exp tokens value after ↔ Recovers (expWith Rule.exp) tokens value after := by
  unfold Recovers
  rw [run_exp_eq_run_expWith]

theorem unaryOperators_nil (notUnary : after.kind.isUnaryOperator = false) :
    Recovers unaryOperators [] [] after := by
  rcases after with ⟨rest, marker, depth⟩
  unfold Recovers
  rw [run_unaryOperators]
  cases rest with
  | nil => rfl
  | cons token rest =>
      change token.kind.isUnaryOperator = false at notUnary
      simp [notUnary]

/-- Where no prefix operator stands the operand stands alone. -/
theorem unaryWith_bare {exp : Rule Exp} {operand : Operand}
    (notUnary : (after.before tokens).kind.isUnaryOperator = false)
    (recovers : Recovers (operandWith exp) tokens operand after) :
    Recovers (unaryWith exp) tokens (.bare operand) after :=
  bind (unaryOperators_nil notUnary) (bind_last recovers (pure _ _))

/-- A prefix operator is put in front of the operand that is read behind it. -/
theorem unaryWith_prefixed {exp : Rule Exp} {op : Token} {inner : Unary}
    (isUnary : op.kind.isUnaryOperator = true)
    (recovers : Recovers (unaryWith exp) tokens inner after) :
    Recovers (unaryWith exp) (op :: tokens) (.prefixed op (.unary inner)) after := by
  unfold Recovers unaryWith at recovers ⊢
  simp only [run_bind, run_unaryOperators, Cursor.before, List.cons_append, List.takeWhile_cons,
    List.dropWhile_cons, isUnary, if_true] at recovers ⊢
  split at recovers
  · cases recovers
    rfl
  · cases recovers

/-- A name in front of an opening parenthesis is called. -/
theorem operandWith_call {exp : Rule Exp} {inner : Call}
    (isName : (after.before tokens).kind = .identifier)
    (isOpen : (after.before tokens).nextKind = .openParen)
    (recovers : Recovers (callWith exp) tokens inner after) :
    Recovers (operandWith exp) tokens (.call inner) after := by
  change (if _ then _ else _ : Rule Operand).run (after.before tokens) = _
  rw [if_pos ⟨isName, isOpen⟩]
  exact bind_last recovers (pure _ _)

/-- Anything else is read as a single operand. -/
theorem operandWith_primary {exp : Rule Exp} {inner : Primary}
    (notCall : (after.before tokens).kind = .identifier →
      (after.before tokens).nextKind ≠ .openParen)
    (recovers : Recovers (primaryWith exp) tokens inner after) :
    Recovers (operandWith exp) tokens (.primary inner) after := by
  change (if _ then _ else _ : Rule Operand).run (after.before tokens) = _
  rw [if_neg fun isCall => notCall isCall.1 isCall.2]
  exact bind_last recovers (pure _ _)

/-- A token alone is read as itself, whatever follows. -/
theorem primaryWith_term {exp : Rule Exp} {token : Token}
    (shaped : (Primary.term token).Shaped) :
    Recovers (primaryWith exp) [token] (.term token) after := by
  rcases shaped with isName | isLiteral
  · apply accept_none_bind
    · rw [Cursor.kind_before_cons, isName]
      rfl
    · apply accept_none_bind
      · rw [Cursor.kind_before_cons, isName]
        rfl
      · exact bind_last (expect _ isName) (pure _ _)
  · exact accept_some_bind isLiteral (pure _ _)

/-- An operand that stands alone does not begin with a prefix operator. -/
theorem notUnary_of_shapedAlone {operand : Operand} (shaped : operand.ShapedAlone)
    (filled : Slot.Filled operand.written tokens) :
    (after.before tokens).kind.isUnaryOperator = false := by
  rcases shaped.head_written with ⟨slot, rest, writtenEq, starts⟩
  rw [writtenEq] at filled
  rw [Cursor.kind_before_of_filled filled]
  rcases starts with isName | isLiteral | isOpen
  · rw [isName]
    rfl
  · exact Kind.isUnaryOperator_eq_false_of_isLiteral isLiteral
  · rw [isOpen]
    rfl

/-- Arguments begin with an opening parenthesis. -/
theorem kind_before_args {value : Args} (filled : Slot.Filled value.written tokens) :
    (after.before tokens).kind = .openParen := by
  cases value <;> exact Cursor.kind_before_of_filled filled

/-! ## Expressions from the outside in -/

mutual

/-- A shaped expression is recovered where no expression goes on behind it. -/
theorem exp : ∀ {value : Exp} {tokens : List Token} {after : Cursor}, value.Shaped →
    Slot.Filled value.written tokens → EndsExp after → Recovers Rule.exp tokens value after
  | .single _, _, _, shaped, filled, ends => by
      rw [exp_iff]
      apply bind_last (unary shaped filled ends.notOpen)
      exact accept_none_bind ends.notBinary (pure _ _)
  | .applied _ _ _, _, after, ⟨leftShaped, isBinary, rightShaped⟩, filled, ends => by
      rw [exp_iff]
      rcases Slot.filled_append_iff.mp filled with ⟨first, _, leftFilled, backFilled, rfl⟩
      rcases Slot.filled_cons_iff.mp backFilled with ⟨op, second, rfl, rightFilled, rfl⟩
      have notOpen : (after.before (op :: second)).kind ≠ .openParen := by
        intro isOpen
        rw [← Cursor.kind_before_cons after op second, isOpen] at isBinary
        cases isBinary
      apply Recovers.bind (unary leftShaped leftFilled notOpen)
      apply accept_some_bind isBinary
      exact bind_last (unary rightShaped rightFilled ends.notOpen) (pure _ _)

theorem unary : ∀ {value : Unary} {tokens : List Token} {after : Cursor}, value.Shaped →
    Slot.Filled value.written tokens → after.kind ≠ .openParen →
    Recovers (unaryWith Rule.exp) tokens value after
  | .bare _, _, _, shaped, filled, notOpen =>
      unaryWith_bare (notUnary_of_shapedAlone shaped filled) (operand shaped filled notOpen)
  | .prefixed _ (.unary _), _, _, ⟨isUnary, shaped⟩, filled, notOpen => by
      rcases Slot.filled_cons_iff.mp filled with ⟨op, rest, rfl, innerFilled, rfl⟩
      exact unaryWith_prefixed isUnary (unary shaped innerFilled notOpen)

theorem operand : ∀ {value : Operand} {tokens : List Token} {after : Cursor},
    value.ShapedAlone → Slot.Filled value.written tokens → after.kind ≠ .openParen →
    Recovers (operandWith Rule.exp) tokens value after
  | .call (.of (.term _) _), _, after, ⟨isName, shaped⟩, filled, _ => by
      have recovers := @call _ _ after shaped filled
      rcases Slot.filled_cons_iff.mp filled with ⟨name, rest, rfl, argsFilled, rfl⟩
      have isOpen : (after.before (name :: rest)).nextKind = .openParen := by
        rw [Cursor.nextKind_before_cons]
        exact kind_before_args argsFilled
      exact operandWith_call isName isOpen recovers
  | .primary inner, _, _, shaped, filled, notOpen => by
      refine operandWith_primary ?_ (primary shaped filled)
      cases inner with
      | term token =>
          rcases Slot.filled_cons_iff.mp filled with ⟨token, rest, rfl, restFilled, rfl⟩
          cases restFilled
          rw [Cursor.nextKind_before_cons]
          exact fun _ => notOpen
      | paren value =>
          rw [Cursor.kind_before_of_filled filled]
          exact fun isName => nomatch isName

theorem call : ∀ {value : Call} {tokens : List Token} {after : Cursor},
    value.Shaped → Slot.Filled value.written tokens →
    Recovers (callWith Rule.exp) tokens value after
  | .of _ _, _, _, ⟨calleeShaped, argsShaped⟩, filled => by
      rcases Slot.filled_append_iff.mp filled with ⟨first, second, calleeFilled, argsFilled, rfl⟩
      apply Recovers.bind (primary calleeShaped calleeFilled)
      exact bind_last (args argsShaped argsFilled) (pure _ _)

theorem primary : ∀ {value : Primary} {tokens : List Token} {after : Cursor},
    value.Shaped → Slot.Filled value.written tokens →
    Recovers (primaryWith Rule.exp) tokens value after
  | .term _, _, _, shaped, filled => by
      rcases Slot.filled_cons_iff.mp filled with ⟨token, rest, rfl, restFilled, rfl⟩
      cases restFilled
      exact primaryWith_term shaped
  | .paren _, _, _, shaped, filled => by
      rcases Slot.filled_parenthesized_iff.mp filled with
        ⟨opening, inside, closing, isOpen, innerFilled, isClose, rfl⟩
      apply accept_none_bind
      · rw [Cursor.kind_before_cons, isOpen]
        rfl
      · apply accept_kind_bind isOpen
        apply Recovers.bind (exp shaped innerFilled (endsExp_before_cons isClose (by decide) rfl))
        exact expect_bind isClose (pure _ _)

theorem args : ∀ {value : Args} {tokens : List Token} {after : Cursor},
    value.Shaped → Slot.Filled value.written tokens →
    Recovers (argsWith Rule.exp) tokens value after
  | .empty, _, _, _, filled => by
      change Slot.Filled (.fixed .openParen :: [] ++ [.fixed .closeParen]) _ at filled
      rcases Slot.filled_parenthesized_iff.mp filled with
        ⟨opening, inside, closing, isOpen, insideFilled, isClose, rfl⟩
      cases insideFilled
      apply expect_bind isOpen
      exact accept_kind_bind isClose (pure _ _)
  | .one _, _, _, shaped, filled => by
      rcases Slot.filled_parenthesized_iff.mp filled with
        ⟨opening, inside, closing, isOpen, innerFilled, isClose, rfl⟩
      apply expect_bind isOpen
      apply accept_none_bind
      · apply decide_eq_false
        rw [Cursor.before_append]
        exact ne_of_startsExp (startsExp_before shaped innerFilled) rfl
      · apply Recovers.bind (exp shaped innerFilled (endsExp_before_cons isClose (by decide) rfl))
        exact expect_bind isClose (pure _ _)

end

end Recovers

end Lunette.Rule
