import Lunette.Indexed.Routine

/-!
# Routines that wait for each other

A machine carries routines out, one step after another.  The routine that was called last is at
work; under it the routines that have called each other wait, each with what it will do with the
value that is returned to it.  A fault ends them all.  The machine keeps the index at which each
of them was called.
-/

namespace Lunette.Indexed

/-- The activations that wait for the value of a routine, and what each does with the value
that it waits for. -/
inductive Waiting (outermost : Routine) : Routine → Type 1 where
  | nobody : Waiting outermost outermost
  | caller {routine : Routine} (activation : Activation)
      (onward : routine.Value → Body activation.routine.Value)
      (others : Waiting outermost activation.routine) : Waiting outermost routine

/-- A state of the machine that carries out a routine. -/
inductive Machine (outermost : Routine) : Type 1 where
  /-- An activation is at work. -/
  | working (activation : Activation) (code : Body activation.routine.Value)
      (waiting : Waiting outermost activation.routine) (position : Position)
  /-- The outermost routine has returned, or a fault has ended it. -/
  | ended (answer : Except Fault outermost.Value) (position : Position)

/-- Return a value to the activation that waits for it. -/
def Waiting.receive {outermost : Routine} : {routine : Routine} →
    Waiting outermost routine → routine.Value → Position → Machine outermost
  | _, .nobody, value, position => .ended (.ok value) position
  | _, .caller activation onward others, value, position =>
      .working activation (onward value) others position

/-- The activations that wait, the innermost first. -/
def Waiting.activations {outermost : Routine} : {routine : Routine} →
    Waiting outermost routine → List Activation
  | _, .nobody => []
  | _, .caller activation _ others => activation :: others.activations

namespace Machine

variable {outermost : Routine}

/-- The activations that have not returned, the innermost first. -/
def activations : Machine outermost → List Activation
  | .working activation _ waiting _ => activation :: waiting.activations
  | .ended _ _ => []

/-- The machine that calls a routine. -/
def start (tokens : List Token) (routine : Routine) (position : Position) : Machine routine :=
  .working ⟨routine, position.index⟩ (routine.body tokens) .nobody position

/-- One step.  Steps on single tokens that are cut off lead nowhere: the machine takes them again
and again. -/
def next (tokens : List Token) : Machine outermost → Machine outermost
  | .working _ (.done value) waiting position => waiting.receive value position
  | .working activation (.step steps onward) waiting position =>
      match steps.run position with
      | some (.ok value, after) => .working activation (onward value) waiting after
      | some (.error fault, after) => .ended (.error fault) after
      | none => .working activation (.step steps onward) waiting position
  | .working activation (.call routine onward) waiting position =>
      .working ⟨routine, position.index⟩ (routine.body tokens)
        (.caller activation onward waiting) position
  | .ended answer position => .ended answer position

/-- The machine after the given number of steps. -/
def after (tokens : List Token) : Nat → Machine outermost → Machine outermost
  | 0, machine => machine
  | count + 1, machine => (machine.next tokens).after tokens count

end Machine

end Lunette.Indexed
