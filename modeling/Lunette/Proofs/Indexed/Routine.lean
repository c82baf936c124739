import Lunette.Grammar.Nesting
import Lunette.Indexed.Routine
import Lunette.Proofs.Indexed.Tokens

/-!
# Routines do what the rules do

Every routine has a rule that reads the same phrase.  A routine is followed here with its calls
answered by the rules, as long as they are in order: at the index at which the routine itself was
called it may call only routines of lower rank, and behind a token that has been read it may call
any.  Only so many calls in order wait for each other, so a routine does the same when its calls
are carried out within a bound.
-/

namespace Lunette.Indexed

open Ast Rule

variable {tokens : ClosedTokens} {caller : Activation} {least : Nat} {α β : Type}

/-! ## The rules of the routines -/

namespace Routine

/-- The rule that reads what the routine reads. -/
def rule : (routine : Routine) → Rule routine.Value
  | .block => Rule.block
  | .stats => Rule.stats
  | .stat => Rule.stat
  | .declaration => Rule.declaration
  | .conditional => Rule.conditional
  | .assignment => Rule.assignment
  | .callStatement => Rule.callStatement
  | .name => Rule.name
  | .exp | .binary => Rule.exp
  | .unary => Rule.unary
  | .call => Rule.call
  | .primary => Rule.primary
  | .args => Rule.args

theorem forward_rule (routine : Routine) : Forward routine.rule := by
  cases routine with
  | block => exact .block
  | stats => exact .stats
  | stat => exact .stat
  | declaration => exact .declaration
  | conditional => exact .conditionalWith .block
  | assignment => exact .assignment
  | callStatement => exact .callStatement
  | name => exact .name
  | exp | binary => exact .exp
  | unary => exact .unaryWith .exp
  | call => exact .callWith .exp
  | primary => exact .primaryWith .exp
  | args => exact .argsWith .exp

end Routine

/-! ## Calls in order -/

namespace Activation

/-- The inner activation was called further on than the outer one, or at the same index and is of
lower rank. -/
def Inside (inner outer : Activation) : Prop :=
  outer.entry < inner.entry ∨
    outer.entry = inner.entry ∧ inner.routine.rank < outer.routine.rank

variable {inner middle outer : Activation}

instance : Decidable (inner.Inside outer) :=
  inferInstanceAs (Decidable (_ ∨ _ ∧ _))

end Activation

namespace Body

variable (calls : (routine : Routine) → Parsing routine.Value)

theorem carry_bind (code : Body α) (next : α → Body β) :
    (code >>= next).carry calls = code.carry calls >>= fun value => (next value).carry calls := by
  change (code.bind next).carry calls = _
  induction code with
  | done value => rw [bind, carry, pure_bind]
  | step steps onward inductionHypothesis =>
      simp only [bind, carry, inductionHypothesis, LawfulMonad.bind_assoc]
  | call routine onward inductionHypothesis =>
      simp only [bind, carry, inductionHypothesis, LawfulMonad.bind_assoc]

theorem carry_lift (steps : Parsing α) : (liftM steps : Body α).carry calls = steps :=
  bind_pure steps

theorem carry_invoke (routine : Routine) : routine.invoke.carry calls = calls routine :=
  bind_pure (calls routine)

end Body

/-- Answer a call of the activation by the rule of the routine, if it is in order.  Any other call
is cut off. -/
def Activation.calls (tokens : ClosedTokens) (caller : Activation) (routine : Routine) :
    Parsing routine.Value :=
  ExceptT.mk fun position =>
    if position.index ≤ tokens.body.length ∧
        Activation.Inside ⟨routine, position.index⟩ caller then
      some (answerOf tokens (routine.rule.run (cursorAt tokens position)))
    else
      none

theorem Activation.run_calls_eq_some_iff {routine : Routine} {position : Position}
    {answer : Except Fault routine.Value × Position} :
    (caller.calls tokens routine).run position = some answer ↔
      (position.index ≤ tokens.body.length ∧
        Activation.Inside ⟨routine, position.index⟩ caller) ∧
      answerOf tokens (routine.rule.run (cursorAt tokens position)) = answer := by
  change (if _ then _ else _) = some answer ↔ _
  split_ifs with inOrder
  · rw [Option.some.injEq, and_iff_right inOrder]
  · exact iff_of_false nofun fun both => inOrder both.1

/-- Carried out in the activation, from an index on, the code does what the rule does. -/
structure Follows (tokens : ClosedTokens) (caller : Activation) (least : Nat)
    (rule : Rule α) (code : Body α) : Prop where
  forward : Forward rule
  run {cursor : Cursor} (stands : Stands tokens cursor)
    (behind : least ≤ (positionOf tokens cursor).index) :
    (code.carry (caller.calls tokens)).run (positionOf tokens cursor) =
      some (answerOf tokens (rule.run cursor))

namespace Follows

theorem pure (value : α) : Follows tokens caller least (pure value) (pure value) where
  forward := .pure value
  run _ _ := rfl

/-- What comes behind a rule is followed from the index to which the rule leads. -/
theorem bind_of {rule : Rule α} {code : Body α} {next : α → Rule β} {further : α → Body β}
    (first : Follows tokens caller least rule code) (forward : ∀ value, Forward (next value))
    (second : ∀ {cursor value after}, Stands tokens cursor →
      least ≤ (positionOf tokens cursor).index → rule.run cursor = .ok value after →
      ∃ index ≤ (positionOf tokens after).index,
        Follows tokens caller index (next value) (further value)) :
    Follows tokens caller least (rule >>= next) (code >>= further) where
  forward := .bind first.forward forward
  run {cursor} stands behind := by
    rw [Body.carry_bind, Steps.run_bind, first.run stands behind, Rule.run_bind]
    cases ruleEq : rule.run cursor with
    | ok value after =>
        obtain ⟨index, notBack, follows⟩ := second stands behind ruleEq
        exact follows.run (stands.after first.forward ruleEq) notBack
    | error error after => rfl

theorem bind {rule : Rule α} {code : Body α} {next : α → Rule β} {further : α → Body β}
    (first : Follows tokens caller least rule code)
    (second : ∀ value, Follows tokens caller least (next value) (further value)) :
    Follows tokens caller least (rule >>= next) (code >>= further) :=
  .bind_of first (fun value => (second value).forward) fun _ behind ruleEq =>
    ⟨least, Nat.le_trans behind (index_le_of_forward tokens first.forward ruleEq), second _⟩

theorem map {rule : Rule α} {code : Body α} (function : α → β)
    (follows : Follows tokens caller least rule code) :
    Follows tokens caller least (function <$> rule)
      (code >>= fun value => Pure.pure (function value)) :=
  .bind follows fun _ => .pure _

/-- Behind a rule that reads a token it goes on from the next index. -/
theorem bind_consumed {rule : Rule α} {code : Body α} {next : α → Rule β} {further : α → Body β}
    (first : Follows tokens caller least rule code) (consumes : Consumes rule)
    (second : ∀ value, Follows tokens caller (least + 1) (next value) (further value)) :
    Follows tokens caller least (rule >>= next) (code >>= further) :=
  .bind_of first (fun value => (second value).forward) fun stands behind ruleEq =>
    ⟨least + 1, Nat.lt_of_le_of_lt behind (stands.index_lt (consumes.length_lt ruleEq)), second _⟩

/-- Behind something optional that is found it goes on from the next index. -/
theorem bind_option {rule : Rule (Option α)} {code : Body (Option α)}
    {next : Option α → Rule β} {further : Option α → Body β}
    (first : Follows tokens caller least rule code)
    (consumes : ∀ {cursor value after}, rule.run cursor = .ok (some value) after →
      after.rest.length < cursor.rest.length)
    (present : ∀ value, Follows tokens caller (least + 1) (next (some value))
      (further (some value)))
    (absent : Follows tokens caller least (next none) (further none)) :
    Follows tokens caller least (rule >>= next) (code >>= further) := by
  refine .bind_of first (fun found => ?_) fun {cursor found after} stands behind ruleEq => ?_
  · cases found with
    | some value => exact (present value).forward
    | none => exact absent.forward
  · cases found with
    | some value =>
        have later := stands.index_lt (consumes ruleEq)
        exact ⟨least + 1, Nat.lt_of_le_of_lt behind later, present value⟩
    | none =>
        have notBack := index_le_of_forward tokens first.forward ruleEq
        exact ⟨least, Nat.le_trans behind notBack, absent⟩

/-- Steps on single tokens that mirror a rule are taken as they are. -/
theorem lift {rule : Rule α} {steps : Parsing α} (mirrors : Mirrors tokens rule steps) :
    Follows tokens caller least rule (liftM steps) where
  forward := mirrors.forward
  run stands _ := by rw [Body.carry_lift, mirrors.run stands]

theorem accept (wanted : Kind → Bool) :
    Follows tokens caller least (accept wanted)
      (liftM (Parsing.accept tokens.toList wanted)) :=
  .lift (.accept wanted)

theorem expect (kind : Kind) (purpose : Purpose) :
    Follows tokens caller least (expect kind purpose)
      (liftM (Parsing.expect tokens.toList kind purpose)) :=
  .lift (.expect kind purpose)

theorem accept_bind {wanted : Kind → Bool} {next : Option Token → Rule β}
    {further : Option Token → Body β} (notEnd : wanted .endOfInput = false)
    (present : ∀ token, Follows tokens caller (least + 1) (next (some token))
      (further (some token)))
    (absent : Follows tokens caller least (next none) (further none)) :
    Follows tokens caller least (Rule.accept wanted >>= next)
      (liftM (Parsing.accept tokens.toList wanted) >>= further) :=
  .bind_option (.accept wanted) (length_lt_of_accept notEnd) present absent

/-- A choice by what the cursor sees is a choice by what is found at the position. -/
theorem choose {rule yes no : Rule α} {test : Parsing Bool} {yesCode noCode : Body α}
    {condition : Cursor → Prop} [DecidablePred condition]
    (ruleEq : ∀ cursor, rule.run cursor =
      (if condition cursor then yes else no).run cursor)
    (testEq : ∀ {cursor}, Stands tokens cursor → test.run (positionOf tokens cursor) =
      some (.ok (decide (condition cursor)), positionOf tokens cursor))
    (first : Follows tokens caller least yes yesCode)
    (second : Follows tokens caller least no noCode) :
    Follows tokens caller least rule (do if ← test then yesCode else noCode) where
  forward := .choose fun cursor => ⟨_, .ite first.forward second.forward, ruleEq cursor⟩
  run {cursor} stands behind := by
    rw [Body.carry_bind, Body.carry_lift, Steps.run_bind_of_ok (testEq stands), ruleEq]
    by_cases holds : condition cursor
    · rw [if_pos (decide_eq_true holds), if_pos holds]
      exact first.run stands behind
    · rw [if_neg (by simpa using holds), if_neg holds]
      exact second.run stands behind

/-- A routine may be called wherever its call is inside the activation.  At the entry of the
activation it has to be a lower routine. -/
theorem invoke (routine : Routine)
    (lower : caller.entry < least ∨
      caller.entry ≤ least ∧ routine.rank < caller.routine.rank) :
    Follows tokens caller least routine.rule routine.invoke where
  forward := routine.forward_rule
  run {cursor} stands behind := by
    have inside : Activation.Inside ⟨routine, (positionOf tokens cursor).index⟩ caller := by
      unfold Activation.Inside
      dsimp only
      omega
    rw [Body.carry_invoke, Activation.run_calls_eq_some_iff, cursorAt_positionOf stands]
    exact ⟨⟨index_le_length tokens cursor, inside⟩, rfl⟩

/-- Behind a token that has been read any routine may be called. -/
theorem behind {outer : Routine} {entry : Nat} (routine : Routine) :
    Follows tokens ⟨outer, entry⟩ (entry + 1) routine.rule routine.invoke :=
  .invoke routine (.inl (Nat.lt_succ_self entry))

/-- Where the activation started a lower routine may be called. -/
theorem below {outer : Routine} {entry : Nat} (routine : Routine)
    (lower : routine.rank < outer.rank) :
    Follows tokens ⟨outer, entry⟩ entry routine.rule routine.invoke :=
  .invoke routine (.inr ⟨Nat.le_refl entry, lower⟩)

/-- What stands around the statements of a block does what the rule does, since the depth is
counted up and down again. -/
theorem around {inside : Body Block}
    (follows : Follows tokens caller least Rule.stats inside) :
    Follows tokens caller least Rule.block (do
      Parsing.openBlock
      let values ← inside
      Parsing.closeBlock
      Parsing.blockEnd tokens.toList values) where
  forward := .block
  run {cursor} stands behind := by
    -- A block is opened and closed without a token being read, so the index stays as it is.
    have deeper : Stands tokens { cursor with depth := cursor.depth + 1 } :=
      ⟨stands.suffix, stands.marker⟩
    have insideEq : (inside.carry (caller.calls tokens)).run
        { positionOf tokens cursor with depth := (positionOf tokens cursor).depth + 1 } =
          some (answerOf tokens (Rule.stats.run { cursor with depth := cursor.depth + 1 })) :=
      follows.run deeper behind
    rw [Body.carry_bind, Body.carry_lift, Steps.run_bind_of_ok (Parsing.run_openBlock _),
      Body.carry_bind, Steps.run_bind, insideEq, run_block_eq_run_blockOf,
      run_blockOf_eq_blockEnd]
    cases statsEq : Rule.stats.run { cursor with depth := cursor.depth + 1 } with
    | ok values after =>
        have standsAfter := deeper.after .stats statsEq
        have shallower : Stands tokens { after with depth := after.depth - 1 } :=
          ⟨standsAfter.suffix, standsAfter.marker⟩
        dsimp only [answerOf]
        rw [Body.carry_bind, Body.carry_lift, Steps.run_bind_of_ok (Parsing.run_closeBlock _),
          Body.carry_lift]
        exact Mirrors.run_blockEnd shallower values
    | error error after => rfl

end Follows

/-! ## Routines -/

namespace Follows

variable {entry : Nat}

/-! ### Expressions -/

theorem name : Follows tokens ⟨.name, entry⟩ entry Rule.name
    (Routine.name.body tokens.toList) :=
  .expect _ _

theorem args :
    Follows tokens ⟨.args, entry⟩ entry Rule.args (Routine.args.body tokens.toList) := by
  refine .bind_consumed (.expect _ _) (.expect _ (by decide)) fun _ =>
    .bind (.accept _) fun paren => ?_
  cases paren with
  | some token => exact .pure _
  | none => exact .bind (.behind .exp) fun _ => .bind (.expect _ _) fun _ => .pure _

theorem primary :
    Follows tokens ⟨.primary, entry⟩ entry Rule.primary
      (Routine.primary.body tokens.toList) := by
  refine .bind (.accept _) fun literal => ?_
  cases literal with
  | some token => exact .pure _
  | none =>
      refine .accept_bind rfl (fun _ => ?_)
        (.bind (.below .name (by decide)) fun _ => .pure _)
      exact .bind (.behind .exp) fun _ => .bind (.expect _ _) fun _ => .pure _

theorem call :
    Follows tokens ⟨.call, entry⟩ entry Rule.call (Routine.call.body tokens.toList) :=
  .bind_consumed (.below .primary (by decide)) (.primaryWith .exp) fun _ =>
    .bind (.behind .args) fun _ => .pure _

/-- The operand behind a prefix operator is read by the same routine, one token further on. -/
theorem unary :
    Follows tokens ⟨.unary, entry⟩ entry Rule.unary (Routine.unary.body tokens.toList) := by
  rw [unary_eq]
  refine .accept_bind rfl (fun op => .bind (.behind .unary) fun _ => .pure _) ?_
  exact .choose (fun cursor => run_bare_operandWith Rule.exp cursor) Parsing.run_atCall
    (.bind (.below .call (by decide)) fun _ => .pure _)
    (.bind (.below .primary (by decide)) fun _ => .pure _)

theorem binary :
    Follows tokens ⟨.binary, entry⟩ entry Rule.exp (Routine.binary.body tokens.toList) := by
  rw [exp_eq]
  refine .bind_consumed (.below .unary (by decide)) (.unaryWith .exp) fun _ =>
    .bind (.accept _) fun op => ?_
  cases op with
  | some token => exact .bind (.behind .unary) fun _ => .lift (.pure _)
  | none => exact .lift (.pure _)

theorem exp :
    Follows tokens ⟨.exp, entry⟩ entry Rule.exp (Routine.exp.body tokens.toList) :=
  .below .binary (by decide)

/-! ### Statements -/

theorem declaration :
    Follows tokens ⟨.declaration, entry⟩ entry Rule.declaration
      (Routine.declaration.body tokens.toList) := by
  refine .bind_consumed (.below .name (by decide)) .name fun _ =>
    .bind (.accept _) fun sign => ?_
  cases sign with
  | some token =>
      exact .bind (.map _ (.behind .exp)) fun _ => .bind (.expect _ _) fun _ => .pure _
  | none => exact .bind (.pure _) fun _ => .bind (.expect _ _) fun _ => .pure _

theorem assignment :
    Follows tokens ⟨.assignment, entry⟩ entry Rule.assignment
      (Routine.assignment.body tokens.toList) :=
  .bind_consumed (.below .name (by decide)) .name fun _ => .bind (.expect _ _) fun _ =>
    .bind (.behind .exp) fun _ => .bind (.expect _ _) fun _ => .pure _

theorem callStatement :
    Follows tokens ⟨.callStatement, entry⟩ entry Rule.callStatement
      (Routine.callStatement.body tokens.toList) :=
  .bind (.below .call (by decide)) fun _ => .bind (.expect _ _) fun _ => .pure _

/-- The blocks of a conditional statement come behind its condition. -/
theorem conditional :
    Follows tokens ⟨.conditional, entry⟩ entry Rule.conditional
      (Routine.conditional.body tokens.toList) := by
  have wordsAtEnd : Follows tokens ⟨.conditional, entry⟩ (entry + 1) Rule.conditionalEnd
      (liftM (Parsing.conditionalEnd tokens.toList)) := .lift .conditionalEnd
  refine .bind_consumed (.below .exp (by decide)) .exp fun _ =>
    .bind (.expect _ _) fun _ => .bind (.behind .block) fun _ =>
    .bind (.accept _) fun word => ?_
  cases word with
  | some token =>
      exact .bind (.behind .block) fun _ => .bind wordsAtEnd fun _ => .pure _
  | none => exact .bind wordsAtEnd fun _ => .pure _

theorem stat :
    Follows tokens ⟨.stat, entry⟩ entry Rule.stat (Routine.stat.body tokens.toList) := by
  refine .accept_bind rfl (fun _ => .map _ (.behind .declaration)) ?_
  refine .accept_bind rfl (fun _ => .map _ (.behind .conditional)) ?_
  have calls : Follows tokens ⟨.stat, entry⟩ entry
      (do
        let cursor ← get
        if cursor.kind = .openParen ∨ cursor.kind = .identifier then some <$> Rule.callStatement
        else return none : Rule (Option Stat)) _ :=
    .choose (fun _ => rfl)
      (fun stands => Parsing.run_check stands fun kind => kind = .openParen ∨ kind = .identifier)
      (.map _ (.below .callStatement (by decide))) (.pure _)
  refine .choose (fun cursor => ?_) Parsing.run_atAssign
    (.map _ (.below .assignment (by decide))) calls
  change (if cursor.nextKind = .assign then _ else _ : Rule (Option Stat)).run cursor = _
  split <;> rfl

/-- The statements behind one that has been read are read by the same routine, further on. -/
theorem stats :
    Follows tokens ⟨.stats, entry⟩ entry Rule.stats (Routine.stats.body tokens.toList) := by
  rw [stats_eq]
  exact .bind_option (.below .stat (by decide)) (length_lt_of_statWith .block)
    (fun _ => .bind (.behind .stats) fun _ => .pure _) (.pure _)

theorem block :
    Follows tokens ⟨.block, entry⟩ entry Rule.block (Routine.block.body tokens.toList) :=
  .around (.below .stats (by decide))

/-- Every routine does what its rule does. -/
theorem body (routine : Routine) :
    Follows tokens ⟨routine, entry⟩ entry routine.rule (routine.body tokens.toList) := by
  cases routine with
  | block => exact .block
  | stats => exact .stats
  | stat => exact .stat
  | declaration => exact .declaration
  | conditional => exact .conditional
  | assignment => exact .assignment
  | callStatement => exact .callStatement
  | name => exact .name
  | exp => exact .exp
  | binary => exact .binary
  | unary => exact .unary
  | call => exact .call
  | primary => exact .primary
  | args => exact .args

end Follows

/-! ## Calls carried out within a bound -/

/-- A bound on how many calls in order may wait for each other, with the activation. -/
def Activation.size (tokens : ClosedTokens) (activation : Activation) : Nat :=
  Routine.ranks * (tokens.body.length - activation.entry) + activation.routine.rank

theorem Routine.rank_lt (routine : Routine) : routine.rank < Routine.ranks := by
  cases routine <;> decide

theorem Activation.Inside.size_lt {inner outer : Activation} (inside : inner.Inside outer)
    (inRange : inner.entry ≤ tokens.body.length) : inner.size tokens < outer.size tokens := by
  have innerRank := inner.routine.rank_lt
  unfold Activation.size
  rw [show Routine.ranks = 10 from rfl] at innerRank ⊢
  rcases inside with further | ⟨here, lower⟩ <;> omega

/-- Code does the same with other calls, if these answer as the first ones wherever the first
ones answer. -/
theorem Body.run_carry_of_calls {first second : (routine : Routine) → Parsing routine.Value}
    (same : ∀ routine position answer, (first routine).run position = some answer →
      (second routine).run position = some answer)
    {code : Body α} {position : Position} {answer : Except Fault α × Position}
    (runEq : (code.carry first).run position = some answer) :
    (code.carry second).run position = some answer := by
  induction code generalizing position with
  | done value => exact runEq
  | step steps onward inductionHypothesis =>
      rw [carry, Steps.run_bind_eq_some_iff] at runEq ⊢
      refine runEq.imp_right fun ⟨found, after, stepsEq, restEq⟩ => ?_
      exact ⟨found, after, stepsEq, inductionHypothesis found restEq⟩
  | call routine onward inductionHypothesis =>
      rw [carry, Steps.run_bind_eq_some_iff] at runEq ⊢
      rcases runEq with ⟨fault, after, callEq, faultEq⟩ | ⟨value, after, callEq, restEq⟩
      · exact .inl ⟨fault, after, same _ _ _ callEq, faultEq⟩
      · exact .inr ⟨value, after, same _ _ _ callEq, inductionHypothesis value restEq⟩

/-- Within a bound above its size a routine does what its rule does: its calls are smaller. -/
theorem Routine.run_within {bound : Nat} {routine : Routine} {cursor : Cursor}
    (stands : Stands tokens cursor)
    (fits : Activation.size tokens ⟨routine, (positionOf tokens cursor).index⟩ < bound) :
    (routine.within tokens.toList bound).run (positionOf tokens cursor) =
      some (answerOf tokens (routine.rule.run cursor)) := by
  induction bound generalizing routine cursor with
  | zero => exact absurd fits (Nat.not_lt_zero _)
  | succ bound inductionHypothesis =>
      refine Body.run_carry_of_calls (fun inner position answer callEq => ?_)
        ((Follows.body routine).run stands (Nat.le_refl _))
      obtain ⟨⟨inRange, inside⟩, rfl⟩ := Activation.run_calls_eq_some_iff.mp callEq
      have smaller := inside.size_lt inRange
      have within := @inductionHypothesis inner _ (stands_cursorAt tokens position)
      rw [positionOf_cursorAt inRange] at within
      exact within (by omega)

/-- The number of tokens is bound enough. -/
theorem Mirrors.within (routine : Routine) :
    Mirrors tokens routine.rule
      (routine.within tokens.toList (Routine.ranks * tokens.toList.length)) where
  forward := routine.forward_rule
  run {cursor} stands := by
    refine Routine.run_within stands ?_
    have below := routine.rank_lt
    rw [Activation.size, ClosedTokens.length_toList, ClosedTokens.size, Nat.mul_succ]
    have fewer := Nat.mul_le_mul_left Routine.ranks (Nat.sub_le tokens.body.length
      (positionOf tokens cursor).index)
    exact Nat.add_lt_add_of_le_of_lt fewer below

end Lunette.Indexed
