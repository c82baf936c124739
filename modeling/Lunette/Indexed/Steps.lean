import Lunette.Ast
import Lunette.ParseError
import Lunette.Reader
import Lunette.Token.Scan

/-!
# Reading step by step

Source text and token lists can also be read by index, with a counter that moves and a check at
every access.  Besides what a source can get wrong there are then faults that only the reading
itself can commit.  Nothing in the form of such steps says that they end, so their loops and
their recursion are counted, and steps that count up to a bound are cut off without an answer.
-/

namespace Lunette.Indexed

/-- Why a reading fails.  The source is at fault only in the first two cases. -/
inductive Fault where
  /-- The text cannot be cut into tokens. -/
  | scan (error : ScanError)
  /-- The tokens are not a program. -/
  | parse (error : ParseError)
  /-- A character is read where there is none. -/
  | reader (fault : Reader.Fault)
  /-- The tokens are not closed by their only end marker. -/
  | unclosed
  /-- A token is looked at where there is none. -/
  | outOfRange
  /-- An expression has an operator and no right operand, or the other way round. -/
  | half (fault : Ast.HalfBinary)

/-- Steps that change a state, may fail, and may be cut off. -/
abbrev Steps (σ : Type) := ExceptT Fault (StateT σ Option)

namespace Steps

variable {σ α β : Type}

/-- Steps that are cut off at once. -/
def cutOff : Steps σ α :=
  ExceptT.mk fun _ => none

/-- Take the steps from a state.  The answer shows the state in which they end or fail. -/
def run (steps : Steps σ α) (state : σ) : Option (Except Fault α × σ) :=
  (ExceptT.run steps).run state

theorem run_pure (value : α) (state : σ) :
    (pure value : Steps σ α).run state = some (.ok value, state) :=
  rfl

theorem run_get (state : σ) : (get : Steps σ σ).run state = some (.ok state, state) :=
  rfl

theorem run_bind (steps : Steps σ α) (next : α → Steps σ β) (state : σ) :
    (steps >>= next).run state =
      match steps.run state with
      | some (.ok value, after) => (next value).run after
      | some (.error fault, after) => some (.error fault, after)
      | none => none := by
  change Option.bind (steps.run state) _ = _
  rcases steps.run state with _ | ⟨_ | _, _⟩ <;> rfl

theorem run_bind_of_ok {steps : Steps σ α} {state after : σ} {value : α}
    (okEq : steps.run state = some (.ok value, after)) (next : α → Steps σ β) :
    (steps >>= next).run state = (next value).run after := by
  rw [run_bind, okEq]

/-- Steps in a row have an answer if the first ones fail, or the others have one behind them. -/
theorem run_bind_eq_some_iff {steps : Steps σ α} {next : α → Steps σ β} {state : σ}
    {answer : Except Fault β × σ} :
    (steps >>= next).run state = some answer ↔
      (∃ fault after, steps.run state = some (.error fault, after) ∧
        (.error fault, after) = answer) ∨
      ∃ value after, steps.run state = some (.ok value, after) ∧
        (next value).run after = some answer := by
  rw [run_bind]
  rcases steps.run state with _ | ⟨_ | _, _⟩ <;> simp [and_assoc]

/-- What is done with a value at the end is done with the answer. -/
theorem map_fst_run_map (steps : Steps σ α) (function : α → β) (state : σ) :
    ((steps >>= fun value => pure (function value)).run state).map Prod.fst =
      ((steps.run state).map Prod.fst).map (Except.map function) := by
  rw [run_bind]
  rcases steps.run state with _ | ⟨_ | _, _⟩ <;> rfl

end Steps

end Lunette.Indexed
