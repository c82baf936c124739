import Lunette.Indexed.Machine
import Lunette.Proofs.Indexed.Routine
import Mathlib.Data.List.Pairwise

/-!
# The machine ends as the rules do

If every call is in order, then two activations of one routine were called at different indices,
the inner one further on.  A run of the machine is followed here from one state to another through
states in which all activations are in order.  Wherever the machine calls a routine in the tokens,
it comes to the end of it with the answer of its rule.
-/

namespace Lunette.Indexed

/-! ## Nested activations -/

namespace Activation

variable {inner middle outer : Activation}

theorem Inside.trans (first : inner.Inside middle) (second : middle.Inside outer) :
    inner.Inside outer := by
  unfold Inside at *
  omega

/-- Between two activations of one routine a token has been read. -/
theorem Inside.entry_lt (inside : inner.Inside outer) (same : inner.routine = outer.routine) :
    outer.entry < inner.entry := by
  rcases inside with further | ⟨-, lower⟩
  · exact further
  · exact absurd lower (same ▸ Nat.lt_irrefl _)

/-- Each of the activations is inside all that come behind it. -/
def Nested (activations : List Activation) : Prop :=
  activations.Pairwise Inside

theorem Nested.cons {activations : List Activation} (nested : Nested (outer :: activations))
    (inside : inner.Inside outer) : Nested (inner :: outer :: activations) := by
  refine List.pairwise_cons.mpr ⟨fun other member => ?_, nested⟩
  rcases List.mem_cons.mp member with rfl | member
  · exact inside
  · exact inside.trans (List.rel_of_pairwise_cons nested member)

end Activation

/-! ## Runs of the machine -/

/-- Behind a value that has been returned those are active that have waited for it. -/
theorem Waiting.activations_receive {outermost routine : Routine}
    (waiting : Waiting outermost routine) (value : routine.Value) (position : Position) :
    (waiting.receive value position).activations = waiting.activations := by
  cases waiting <;> rfl

namespace Machine

variable {outermost : Routine} {tokens : List Token} {machine between target : Machine outermost}

/-- A machine that has stopped stays as it is. -/
theorem after_of_next_eq (stopped : machine.next tokens = machine) (count : Nat) :
    machine.after tokens count = machine := by
  induction count with
  | zero => rfl
  | succ count inductionHypothesis => rw [after, stopped, inductionHypothesis]

/-- The machine comes from one state to another, and all the way the activations are nested. -/
inductive Leads (tokens : List Token) : Machine outermost → Machine outermost → Prop
  | here {machine : Machine outermost} (nested : Activation.Nested machine.activations) :
      Leads tokens machine machine
  | onward {machine target : Machine outermost} (nested : Activation.Nested machine.activations)
      (leads : Leads tokens (machine.next tokens) target) : Leads tokens machine target

namespace Leads

theorem trans (first : Leads tokens machine between) (second : Leads tokens between target) :
    Leads tokens machine target := by
  induction first with
  | here nested => exact second
  | onward nested leads inductionHypothesis => exact .onward nested (inductionHypothesis second)

/-- The run takes a number of steps. -/
theorem exists_after_eq (leads : Leads tokens machine target) :
    ∃ count, machine.after tokens count = target := by
  induction leads with
  | here nested => exact ⟨0, rfl⟩
  | onward nested leads inductionHypothesis =>
      obtain ⟨count, afterEq⟩ := inductionHypothesis
      exact ⟨count + 1, afterEq⟩

/-- In a run that stops the activations are nested after any number of steps. -/
theorem nested_after (leads : Leads tokens machine target)
    (stopped : target.next tokens = target) (count : Nat) :
    Activation.Nested (machine.after tokens count).activations := by
  induction count generalizing machine with
  | zero => cases leads <;> assumption
  | succ count inductionHypothesis =>
      cases leads with
      | here nested =>
          rw [after_of_next_eq stopped]
          exact nested
      | onward nested leads => exact inductionHypothesis leads

end Leads

end Machine

/-! ## Calls carried out by the machine -/

variable {tokens : ClosedTokens}

/-- The machine when the routine that is waited for has ended. -/
def Waiting.finish {outermost routine : Routine} (waiting : Waiting outermost routine) :
    Except Fault routine.Value × Position → Machine outermost
  | (.ok value, position) => waiting.receive value position
  | (.error fault, position) => .ended (.error fault) position

/-- Called at its entry, the routine of the activation ends as its rule does. -/
def Settles (tokens : ClosedTokens) (activation : Activation) : Prop :=
  ∀ {outermost : Routine} {waiting : Waiting outermost activation.routine} {position : Position},
    Activation.Nested (activation :: waiting.activations) →
    position.index ≤ tokens.body.length → position.index = activation.entry →
    Machine.Leads tokens.toList
      (.working activation (activation.routine.body tokens.toList) waiting position)
      (waiting.finish (answerOf tokens (activation.routine.rule.run (cursorAt tokens position))))

/-- Code that comes to an end with its calls answered by the rules comes to the same end in the
machine, if the routines settle that it calls. -/
theorem Machine.leads_carry {outermost : Routine} {activation : Activation}
    {waiting : Waiting outermost activation.routine} {position : Position}
    {code : Body activation.routine.Value}
    {answer : Except Fault activation.routine.Value × Position}
    (settles : ∀ inner : Activation, inner.entry ≤ tokens.body.length →
      inner.Inside activation → Settles tokens inner)
    (nested : Activation.Nested (activation :: waiting.activations))
    (runEq : (code.carry (activation.calls tokens)).run position = some answer) :
    Leads tokens.toList (.working activation code waiting position) (waiting.finish answer) := by
  refine .onward nested ?_
  induction code generalizing position with
  | done value =>
      cases runEq
      refine .here ?_
      change Activation.Nested (waiting.receive value position).activations
      rw [Waiting.activations_receive]
      exact List.Pairwise.of_cons nested
  | step steps onward inductionHypothesis =>
      rw [next]
      rcases Steps.run_bind_eq_some_iff.mp runEq with
        ⟨fault, after, stepsEq, rfl⟩ | ⟨found, after, stepsEq, restEq⟩
      · rw [stepsEq]
        exact .here List.Pairwise.nil
      · rw [stepsEq]
        exact .onward nested (inductionHypothesis found restEq)
  | call routine onward inductionHypothesis =>
      -- The call stands on top of the activation, which waits for its value.
      have called {answer : Except Fault routine.Value × Position}
          (callEq : (activation.calls tokens routine).run position = some answer) :
          Leads tokens.toList
            (next tokens.toList (.working activation (.call routine onward) waiting position))
            ((Waiting.caller activation onward waiting).finish answer) := by
        obtain ⟨⟨inRange, inside⟩, rfl⟩ := Activation.run_calls_eq_some_iff.mp callEq
        exact settles ⟨routine, position.index⟩ inRange inside (nested.cons inside) inRange rfl
      rcases Steps.run_bind_eq_some_iff.mp runEq with
        ⟨fault, after, callEq, rfl⟩ | ⟨value, after, callEq, restEq⟩
      · exact called callEq
      · exact (called callEq).trans (.onward nested (inductionHypothesis value restEq))

/-- Every routine settles wherever the machine calls it, since its calls are smaller. -/
theorem settles (tokens : ClosedTokens) (activation : Activation) :
    Settles tokens activation := by
  intro outermost waiting position nested inRange entryEq
  refine Machine.leads_carry (fun inner innerInRange inside => settles tokens inner) nested ?_
  have atEntry : activation.entry ≤ (positionOf tokens (cursorAt tokens position)).index := by
    rw [positionOf_cursorAt inRange]
    exact Nat.le_of_eq entryEq.symm
  have followed := (Follows.body activation.routine).run (stands_cursorAt tokens position) atEntry
  rwa [positionOf_cursorAt inRange] at followed
termination_by activation.size tokens
decreasing_by exact inside.size_lt innerInRange

namespace Machine

/-- Started at any token, the machine ends as the rule of its routine does. -/
theorem leads_start (routine : Routine) {cursor : Cursor} (stands : Stands tokens cursor) :
    Leads tokens.toList (.start tokens.toList routine (positionOf tokens cursor))
      (Waiting.nobody.finish (answerOf tokens (routine.rule.run cursor))) := by
  have leads := @settles tokens ⟨routine, (positionOf tokens cursor).index⟩ routine .nobody
    (positionOf tokens cursor) (List.pairwise_singleton _ _) (index_le_length tokens cursor) rfl
  rwa [cursorAt_positionOf stands] at leads

theorem next_finish {routine : Routine} (list : List Token)
    (answer : Except Fault routine.Value × Position) :
    (Waiting.nobody.finish answer).next list = Waiting.nobody.finish answer := by
  rcases answer with ⟨_ | _, _⟩ <;> rfl

end Machine

end Lunette.Indexed
