import Lunette.Proofs.Reading.Lookahead

/-!
# How far expressions look ahead

The rules for expressions are local.  An operand is chosen by what stands behind a name, and
the name is read whatever the choice is.
-/

namespace Lunette.Rule

open Ast

namespace TakesName

theorem primaryWith (exp : Rule Exp) : TakesName (primaryWith exp) :=
  .accept_bind rfl (.accept_bind rfl (.bind name fun _ => .pure _))

theorem callWith {exp : Rule Exp} (nested : Forward exp) : TakesName (callWith exp) :=
  .bind (primaryWith exp) fun _ => .bind (.argsWith nested) fun _ => .pure _

theorem operandWith {exp : Rule Exp} (nested : Forward exp) : TakesName (operandWith exp) where
  length_lt {cursor after verdict} isName stops := by
    change (if _ then _ else _ : Rule Operand).run cursor = _ at stops
    split at stops
    · exact ((callWith nested).map _).length_lt isName stops
    · exact ((primaryWith exp).map _).length_lt isName stops

end TakesName

namespace Local

theorem name : Local name :=
  .expect _ (by decide)

section Nested

variable {exp : Rule Exp} (nested : Local exp)

include nested

theorem primaryWith : Local (primaryWith exp) := by
  apply bind (.accept rfl)
  intro literal
  cases literal with
  | some token => exact .pure _
  | none =>
      apply bind (.accept rfl)
      intro paren
      cases paren with
      | some token => exact nested.bind fun _ => .bind (.expect _ (by decide)) fun _ => .pure _
      | none => exact .bind .name fun _ => .pure _

theorem argsWith : Local (argsWith exp) := by
  apply bind (.expect _ (by decide))
  intro opening
  apply bind (.accept rfl)
  intro paren
  cases paren with
  | some token => exact .pure _
  | none => exact nested.bind fun _ => .bind (.expect _ (by decide)) fun _ => .pure _

theorem callWith : Local (callWith exp) :=
  .bind (primaryWith nested) fun _ => .bind (argsWith nested) fun _ => .pure _

/-- What follows a name tells whether the name is called, and the name is read either way. -/
theorem operandWith : Local (operandWith exp) := by
  apply choice (fun cursor => cursor.kind = .identifier ∧ cursor.nextKind = .openParen)
    (fun _ => rfl)
  · exact (callWith nested).map _
  · exact (primaryWith nested).map _
  · exact .operandWith nested.forward
  · intro after other alike front depth notName
    cases front with
    | nil =>
        have otherNotName : other.kind ≠ .identifier := alike.kind ▸ notName rfl
        exact iff_of_false (fun called => notName rfl called.1)
          (fun called => otherNotName called.1)
    | cons token front => rw [alike.nextKind_source, (alike.source _ _).kind]

theorem unaryWith : Local (unaryWith exp) :=
  .bind .unaryOperators fun _ => .bind (operandWith nested) fun _ => .pure _

theorem expWith : Local (expWith exp) := by
  apply bind (unaryWith nested)
  intro left
  apply bind (.accept rfl)
  intro op
  cases op with
  | some token => exact .bind (unaryWith nested) fun _ => .pure _
  | none => exact .pure _

end Nested

theorem expWithin (bound : Nat) : Local (expWithin bound) := by
  induction bound with
  | zero => exact .bind .name fun _ => .pure _
  | succ bound inductionHypothesis => exact expWith inductionHypothesis

theorem exp : Local exp :=
  .bounded expWithin run_expWithin_of_le

end Local

end Lunette.Rule
