import Lunette.Grammar.Forward

/-!
# Every needed token has a purpose

Each purpose of the grammar calls for tokens of one kind.  Where a rule of the grammar stops for
want of a token, the purpose that it names is one that calls for the wanted kind, so the wording
of the error is always the grammar's own and never a stated one.
-/

namespace Lunette

/-- The kind of token that serves the purpose; what is only stated calls for no kind. -/
def Purpose.kind? : Purpose → Option Kind
  | .statementEnd => some .semicolon
  | .conditionEnd => some .thenWord
  | .conditionalEnd => some .endWord
  | .assignmentSign => some .assign
  | .variableName => some .identifier
  | .parenthesisEnd => some .closeParen
  | .argsStart => some .openParen
  | .argsEnd => some .closeParen
  | .stated _ => none

/-- The purpose of a needed token calls for its kind. -/
def ParseError.Purposeful : ParseError → Prop
  | .expectedToken expected purpose _ => purpose.kind? = some expected
  | .unexpectedTopLevel _ => True

namespace Rule

open Ast

variable {α β : Type}

/-- Whatever stops the rule is purposeful. -/
structure Purposeful (rule : Rule α) : Prop where
  error {cursor : Cursor} {error : ParseError} {after : Cursor}
    (errorEq : rule.run cursor = .error error after) : error.Purposeful

namespace Purposeful

theorem pure (value : α) : Purposeful (pure value : Rule α) where
  error errorEq := by
    rw [run_pure] at errorEq
    cases errorEq

theorem bind {rule : Rule α} {next : α → Rule β} (first : Purposeful rule)
    (second : ∀ value, Purposeful (next value)) : Purposeful (rule >>= next) where
  error errorEq := by
    rw [run_bind] at errorEq
    split at errorEq
    · exact (second _).error errorEq
    · rename_i failedEq
      cases errorEq
      exact first.error failedEq

theorem map {rule : Rule α} (function : α → β) (purposeful : Purposeful rule) :
    Purposeful (function <$> rule) :=
  .bind purposeful fun _ => .pure _

theorem get : Purposeful (get : Rule Cursor) where
  error errorEq := by
    change EStateM.Result.ok _ _ = _ at errorEq
    cases errorEq

theorem ite {condition : Prop} [Decidable condition] {yes no : Rule α}
    (first : Purposeful yes) (second : Purposeful no) :
    Purposeful (if condition then yes else no) := by
  split <;> assumption

theorem accept (wanted : Kind → Bool) : Purposeful (accept wanted) where
  error errorEq := by
    rw [run_accept] at errorEq
    split at errorEq <;> cases errorEq

theorem expect {kind : Kind} {purpose : Purpose} (serves : purpose.kind? = some kind) :
    Purposeful (expect kind purpose) where
  error errorEq := by
    rw [run_expect] at errorEq
    split at errorEq <;> cases errorEq
    exact serves

theorem unaryOperators : Purposeful unaryOperators where
  error errorEq := by
    rw [run_unaryOperators] at errorEq
    cases errorEq

/-! ## Expressions -/

theorem name : Purposeful name :=
  .expect rfl

theorem primaryWith {exp : Rule Exp} (nested : Purposeful exp) :
    Purposeful (primaryWith exp) := by
  refine .bind (.accept _) fun literal => ?_
  cases literal with
  | some token => exact .pure _
  | none =>
      refine .bind (.accept _) fun paren => ?_
      cases paren with
      | some token => exact .bind nested fun _ => .bind (.expect rfl) fun _ => .pure _
      | none => exact .bind .name fun _ => .pure _

theorem argsWith {exp : Rule Exp} (nested : Purposeful exp) : Purposeful (argsWith exp) := by
  refine .bind (.expect rfl) fun _ => .bind (.accept _) fun paren => ?_
  cases paren with
  | some token => exact .pure _
  | none => exact .bind nested fun _ => .bind (.expect rfl) fun _ => .pure _

theorem callWith {exp : Rule Exp} (nested : Purposeful exp) : Purposeful (callWith exp) :=
  .bind (.primaryWith nested) fun _ => .bind (.argsWith nested) fun _ => .pure _

theorem operandWith {exp : Rule Exp} (nested : Purposeful exp) : Purposeful (operandWith exp) :=
  .bind .get fun _ => .ite (.bind (.callWith nested) fun _ => .pure _)
    (.bind (.primaryWith nested) fun _ => .pure _)

theorem unaryWith {exp : Rule Exp} (nested : Purposeful exp) : Purposeful (unaryWith exp) :=
  .bind .unaryOperators fun _ => .bind (.operandWith nested) fun _ => .pure _

theorem expWith {exp : Rule Exp} (nested : Purposeful exp) : Purposeful (expWith exp) := by
  refine .bind (.unaryWith nested) fun _ => .bind (.accept _) fun op => ?_
  cases op with
  | some token => exact .bind (.unaryWith nested) fun _ => .pure _
  | none => exact .pure _

theorem expWithin (bound : Nat) : Purposeful (expWithin bound) := by
  induction bound with
  | zero => exact .bind .name fun _ => .pure _
  | succ bound inductionHypothesis => exact .expWith inductionHypothesis

/-- A rule that is bounded by the tokens left is purposeful if it is so under every bound. -/
theorem bounded {rule : Nat → Rule α} (purposeful : ∀ bound, Purposeful (rule bound)) :
    Purposeful (do rule (← MonadState.get).rest.length) :=
  .bind .get fun _ => purposeful _

theorem exp : Purposeful exp :=
  .bounded .expWithin

/-! ## Statements -/

theorem declaration : Purposeful declaration := by
  refine .bind .name fun _ => .bind (.accept _) fun sign => ?_
  cases sign with
  | some token => exact .bind (.map _ .exp) fun _ => .bind (.expect rfl) fun _ => .pure _
  | none => exact .bind (.pure _) fun _ => .bind (.expect rfl) fun _ => .pure _

theorem assignment : Purposeful assignment :=
  .bind .name fun _ => .bind (.expect rfl) fun _ => .bind .exp fun _ =>
    .bind (.expect rfl) fun _ => .pure _

theorem callStatement : Purposeful callStatement :=
  .bind (.callWith .exp) fun _ => .bind (.expect rfl) fun _ => .pure _

theorem conditionalEnd : Purposeful conditionalEnd :=
  .bind (.expect rfl) fun _ => .bind (.expect rfl) fun _ => .pure _

theorem conditionalWith {block : Rule Block} (nested : Purposeful block) :
    Purposeful (conditionalWith block) := by
  refine .bind .exp fun _ => .bind (.expect rfl) fun _ => .bind nested fun _ =>
    .bind (.accept _) fun word => ?_
  cases word with
  | some token => exact .bind nested fun _ => .bind .conditionalEnd fun _ => .pure _
  | none => exact .bind .conditionalEnd fun _ => .pure _

theorem statWith {block : Rule Block} (nested : Purposeful block) :
    Purposeful (statWith block) := by
  refine .bind (.accept _) fun word => ?_
  cases word with
  | some token => exact .map _ .declaration
  | none =>
      refine .bind (.accept _) fun word => ?_
      cases word with
      | some token => exact .map _ (.conditionalWith nested)
      | none =>
          exact .bind .get fun _ => .ite (.map _ .assignment)
            (.ite (.map _ .callStatement) (.pure _))

theorem statsWithin {stat : Rule (Option Stat)} (nested : Purposeful stat) (bound : Nat) :
    Purposeful (statsWithin stat bound) := by
  induction bound with
  | zero => exact .pure _
  | succ bound inductionHypothesis =>
      refine .bind nested fun first => ?_
      cases first with
      | some first => exact .bind inductionHypothesis fun _ => .pure _
      | none => exact .pure _

theorem blockOf {stats : Rule Block} (nested : Purposeful stats) :
    Purposeful (blockOf stats) where
  error errorEq := by
    rw [run_blockOf] at errorEq
    split at errorEq
    · dsimp only at errorEq
      split at errorEq <;> cases errorEq
      trivial
    · rename_i failedEq
      cases errorEq
      exact nested.error failedEq

theorem blockWithin (bound : Nat) : Purposeful (blockWithin bound) := by
  induction bound with
  | zero => exact .blockOf (.pure _)
  | succ bound inductionHypothesis =>
      exact .blockOf (.statsWithin (.statWith inductionHypothesis) _)

theorem block : Purposeful block :=
  .bounded .blockWithin

end Purposeful

end Rule

end Lunette
