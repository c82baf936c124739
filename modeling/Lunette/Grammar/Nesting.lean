import Lunette.Grammar.Forward

/-!
# Rules nest themselves

The rules for expressions and for blocks are cut off at a bound on the nesting that is read
off the tokens left.  The bound never shows: an expression is read by the rule whose nested
expressions are read by the same rule, and likewise a block.  The reason is that a rule asks
for nested phrases only after it has read a token, so two rules for nested phrases that agree
where fewer tokens are left give the same answer.
-/

namespace Lunette.Rule

open Ast

variable {α β : Type}

/-- Two rules agree on cursors with fewer than the given number of tokens. -/
def AgreeBelow (bound : Nat) (first second : Rule α) : Prop :=
  ∀ cursor : Cursor, cursor.rest.length < bound → first.run cursor = second.run cursor

theorem AgreeBelow.mono {bound lower : Nat} {first second : Rule α}
    (agree : AgreeBelow bound first second) (le : lower ≤ bound) :
    AgreeBelow lower first second :=
  fun cursor fewer => agree cursor (Nat.lt_of_lt_of_le fewer le)

theorem run_bind_congr {rule rule' : Rule α} {next next' : α → Rule β} {cursor : Cursor}
    (first : rule.run cursor = rule'.run cursor)
    (second : ∀ value after, rule.run cursor = .ok value after →
      (next value).run after = (next' value).run after) :
    (rule >>= next).run cursor = (rule' >>= next').run cursor := by
  rw [run_bind, run_bind, ← first]
  split
  · rename_i value after okEq
    exact second value after okEq
  · rfl

/-! ## Expressions -/

theorem primaryWith_congr {first second : Rule Exp} {cursor : Cursor}
    (agree : AgreeBelow cursor.rest.length first second) :
    (primaryWith first).run cursor = (primaryWith second).run cursor := by
  refine run_bind_congr rfl fun literal after literalEq => ?_
  cases literal with
  | some token => rfl
  | none =>
      cases eq_of_accept_none literalEq
      refine run_bind_congr rfl fun paren inside parenEq => ?_
      cases paren with
      | none => rfl
      | some token =>
          exact run_bind_congr (agree _ (length_lt_of_accept rfl parenEq)) fun _ _ _ => rfl

theorem argsWith_congr {first second : Rule Exp} {cursor : Cursor}
    (agree : AgreeBelow cursor.rest.length first second) :
    (argsWith first).run cursor = (argsWith second).run cursor := by
  refine run_bind_congr rfl fun _ inside openEq => ?_
  have fewer := (Consumes.expect .argsStart (by decide)).length_lt openEq
  refine run_bind_congr rfl fun paren after parenEq => ?_
  cases paren with
  | some token => rfl
  | none =>
      cases eq_of_accept_none parenEq
      exact run_bind_congr (agree _ fewer) fun _ _ _ => rfl

theorem callWith_congr {first second : Rule Exp} {cursor : Cursor} (forward : Forward first)
    (agree : AgreeBelow cursor.rest.length first second) :
    (callWith first).run cursor = (callWith second).run cursor :=
  run_bind_congr (primaryWith_congr agree) fun _ _ primaryEq =>
    run_bind_congr
      (argsWith_congr (agree.mono ((Forward.primaryWith forward).length_le primaryEq)))
      fun _ _ _ => rfl

theorem operandWith_congr {first second : Rule Exp} {cursor : Cursor}
    (forward : Forward first) (agree : AgreeBelow cursor.rest.length first second) :
    (operandWith first).run cursor = (operandWith second).run cursor := by
  refine run_bind_congr rfl fun seen after seenEq => ?_
  cases seenEq
  split
  · exact run_bind_congr (callWith_congr forward agree) fun _ _ _ => rfl
  · exact run_bind_congr (primaryWith_congr agree) fun _ _ _ => rfl

theorem unaryWith_congr {first second : Rule Exp} {cursor : Cursor} (forward : Forward first)
    (agree : AgreeBelow cursor.rest.length first second) :
    (unaryWith first).run cursor = (unaryWith second).run cursor :=
  run_bind_congr rfl fun _ _ opsEq =>
    run_bind_congr
      (operandWith_congr forward (agree.mono (Forward.unaryOperators.length_le opsEq)))
      fun _ _ _ => rfl

theorem expWith_congr {first second : Rule Exp} {cursor : Cursor} (forward : Forward first)
    (agree : AgreeBelow cursor.rest.length first second) :
    (expWith first).run cursor = (expWith second).run cursor := by
  refine run_bind_congr (unaryWith_congr forward agree) fun _ between leftEq => ?_
  have notMore := (Forward.unaryWith forward).length_le leftEq
  refine run_bind_congr rfl fun op after opEq => ?_
  cases op with
  | none => rfl
  | some token =>
      have fewer := length_lt_of_accept rfl opEq
      exact run_bind_congr (unaryWith_congr forward (agree.mono (by omega))) fun _ _ _ => rfl

/-- Where no token is left, nested expressions play no part. -/
theorem run_expWith_of_nil (nested : Rule Exp) {cursor : Cursor} (restEq : cursor.rest = []) :
    (expWith nested).run cursor = (expWithin 0).run cursor := by
  obtain ⟨rest, marker, depth⟩ := cursor
  cases restEq
  rfl

theorem run_expWithin_of_le (bound : Nat) {more : Nat} {cursor : Cursor}
    (within : cursor.rest.length ≤ bound) (le : bound ≤ more) :
    (expWithin more).run cursor = (expWithin bound).run cursor := by
  induction bound generalizing more cursor with
  | zero =>
      cases more with
      | zero => rfl
      | succ more => exact run_expWith_of_nil _ (List.length_eq_zero_iff.mp (by omega))
  | succ bound inductionHypothesis =>
      cases more with
      | zero => omega
      | succ more =>
          exact expWith_congr (.expWithin more) fun inner fewer =>
            inductionHypothesis (by omega) (by omega)

theorem run_exp (cursor : Cursor) :
    exp.run cursor = (expWithin cursor.rest.length).run cursor :=
  rfl

/-- The expressions nested in an expression are read by the same rule. -/
theorem run_exp_eq_run_expWith (cursor : Cursor) :
    exp.run cursor = (expWith exp).run cursor := by
  have agree : AgreeBelow cursor.rest.length (expWithin cursor.rest.length) exp :=
    fun inner fewer => run_expWithin_of_le _ (Nat.le_refl _) (Nat.le_of_lt fewer)
  rw [← expWith_congr (.expWithin _) agree, run_exp]
  exact (run_expWithin_of_le _ (Nat.le_refl _) (Nat.le_succ _)).symm

/-- An expression has at least one token. -/
theorem Consumes.exp : Consumes exp where
  length_lt okEq := by
    rw [run_exp_eq_run_expWith] at okEq
    exact (Consumes.expWith .exp).length_lt okEq

/-! ## Statements -/

/-- A conditional statement has at least the tokens of its condition. -/
theorem Consumes.conditionalWith {block : Rule Block} (nested : Forward block) :
    Consumes (conditionalWith block) := by
  refine .bind_left .exp fun _ => .bind (.expect _ _) fun _ => .bind nested fun _ =>
    .bind (.accept _) fun word => ?_
  cases word with
  | some token => exact .bind nested fun _ => .bind .conditionalEnd fun _ => .pure _
  | none => exact .bind .conditionalEnd fun _ => .pure _

theorem conditionalWith_congr {first second : Rule Block} {cursor : Cursor}
    (forward : Forward first) (agree : AgreeBelow (cursor.rest.length + 1) first second) :
    (conditionalWith first).run cursor = (conditionalWith second).run cursor := by
  refine run_bind_congr rfl fun _ condition conditionEq => ?_
  have conditionLe := Forward.exp.length_le conditionEq
  refine run_bind_congr rfl fun _ inside thenEq => ?_
  have thenLe := (Forward.expect _ _).length_le thenEq
  refine run_bind_congr (agree _ (by omega)) fun _ behind bodyEq => ?_
  have bodyLe := forward.length_le bodyEq
  refine run_bind_congr rfl fun word other wordEq => ?_
  have wordLe := (Forward.accept _).length_le wordEq
  cases word with
  | none => rfl
  | some token => exact run_bind_congr (agree _ (by omega)) fun _ _ _ => rfl

theorem statWith_congr {first second : Rule Block} {cursor : Cursor}
    (forward : Forward first) (agree : AgreeBelow cursor.rest.length first second) :
    (statWith first).run cursor = (statWith second).run cursor := by
  refine run_bind_congr rfl fun word after wordEq => ?_
  cases word with
  | some token => rfl
  | none =>
      cases eq_of_accept_none wordEq
      refine run_bind_congr rfl fun word inside wordEq => ?_
      cases word with
      | none => rfl
      | some token =>
          have fewer := length_lt_of_accept rfl wordEq
          exact run_bind_congr (conditionalWith_congr forward (agree.mono (by omega)))
            fun _ _ _ => rfl

theorem run_statsWithin_of_nil (block : Rule Block) (bound : Nat) {cursor : Cursor}
    (restEq : cursor.rest = []) :
    (statsWithin (statWith block) bound).run cursor = .ok [] cursor := by
  cases bound with
  | zero => rfl
  | succ bound =>
      unfold statsWithin
      rw [run_bind, run_statWith_of_nil _ restEq]
      rfl

/-- Statements in a row do not depend on the bound on their number, as long as the bound is
not below the number of tokens left. -/
theorem run_statsWithin_congr {first second : Rule Block} (forward : Forward first)
    (bound : Nat) {more : Nat} {cursor : Cursor} (within : cursor.rest.length ≤ bound)
    (le : bound ≤ more) (agree : AgreeBelow cursor.rest.length first second) :
    (statsWithin (statWith first) more).run cursor =
      (statsWithin (statWith second) bound).run cursor := by
  induction bound generalizing more cursor with
  | zero =>
      have restEq := List.length_eq_zero_iff.mp (Nat.le_zero.mp within)
      exact run_statsWithin_of_nil _ _ restEq
  | succ bound inductionHypothesis =>
      cases more with
      | zero => omega
      | succ more =>
          unfold statsWithin
          refine run_bind_congr (statWith_congr forward agree) fun found after foundEq => ?_
          cases found with
          | none => rfl
          | some stat =>
              have fewer := length_lt_of_statWith forward foundEq
              exact run_bind_congr
                (inductionHypothesis (by omega) (by omega) (agree.mono (by omega)))
                fun _ _ _ => rfl

theorem run_blockOf_congr {first second : Rule Block} {cursor : Cursor}
    (same : first.run { cursor with depth := cursor.depth + 1 } =
      second.run { cursor with depth := cursor.depth + 1 }) :
    (blockOf first).run cursor = (blockOf second).run cursor := by
  rw [run_blockOf, run_blockOf, same]

theorem run_blockWithin_of_le (bound : Nat) {more : Nat} {cursor : Cursor}
    (within : cursor.rest.length ≤ bound) (le : bound ≤ more) :
    (blockWithin more).run cursor = (blockWithin bound).run cursor := by
  induction bound generalizing more cursor with
  | zero =>
      cases more with
      | zero => rfl
      | succ more =>
          have restEq := List.length_eq_zero_iff.mp (Nat.le_zero.mp within)
          exact run_blockOf_congr (run_statsWithin_of_nil _ _ restEq)
  | succ bound inductionHypothesis =>
      cases more with
      | zero => omega
      | succ more =>
          exact run_blockOf_congr
            (run_statsWithin_congr (.blockWithin more) _ within le fun inner fewer =>
              inductionHypothesis (Nat.le_of_lt_succ (Nat.lt_of_lt_of_le fewer within))
                (by omega))

theorem run_block (cursor : Cursor) :
    block.run cursor = (blockWithin cursor.rest.length).run cursor :=
  rfl

/-- The blocks nested in a block are read by the same rule. -/
theorem run_block_eq_run_blockOf (cursor : Cursor) :
    block.run cursor = (blockOf stats).run cursor := by
  have agree : AgreeBelow cursor.rest.length (blockWithin cursor.rest.length) block :=
    fun inner fewer => run_blockWithin_of_le _ (Nat.le_refl _) (Nat.le_of_lt fewer)
  rw [run_block, ← run_blockWithin_of_le _ (Nat.le_refl _) (Nat.le_succ _)]
  exact run_blockOf_congr
    (run_statsWithin_congr (.blockWithin _) _ (Nat.le_refl _) (Nat.le_succ _) agree)

/-- Statements are read one after another until none starts. -/
theorem run_stats (cursor : Cursor) :
    stats.run cursor =
      (do
        match ← stat with
        | some first => return first :: (← stats)
        | none => return [] : Rule Block).run cursor := by
  have anyBound {bound : Nat} {inner : Cursor} (within : inner.rest.length ≤ bound) :
      (statsWithin stat bound).run inner = stats.run inner :=
    run_statsWithin_congr .block _ (Nat.le_refl _) within fun _ _ => rfl
  rw [← anyBound (Nat.le_succ _)]
  refine run_bind_congr rfl fun found after foundEq => ?_
  cases found with
  | none => rfl
  | some first =>
      exact run_bind_congr (anyBound (Nat.le_of_lt (length_lt_of_statWith .block foundEq)))
        fun _ _ _ => rfl

/-! ## Rules by what they call -/

theorem exp_eq : exp = expWith exp :=
  funext run_exp_eq_run_expWith

/-- Prefix operators are read one by one. -/
theorem unaryOperators_eq :
    unaryOperators = (do
      match ← accept Kind.isUnaryOperator with
      | some op => return op :: (← unaryOperators)
      | none => return [] : Rule (List Token)) := by
  funext cursor
  obtain ⟨rest, marker, depth⟩ := cursor
  change unaryOperators.run _ = EStateM.run _ _
  rw [run_bind, run_accept, run_unaryOperators]
  cases rest with
  | nil => rfl
  | cons op rest =>
      cases isOperator : op.kind.isUnaryOperator <;>
        simp only [Cursor.kind, isOperator, List.takeWhile_cons, List.dropWhile_cons] <;> rfl

theorem unary_eq :
    unary = (do
      match ← accept Kind.isUnaryOperator with
      | some op => return .prefixed op (.unary (← unary))
      | none => return .bare (← operandWith exp) : Rule Unary) := by
  conv => lhs; rw [unary, unaryWith, unaryOperators_eq, bind_assoc]
  congr 1
  funext found
  cases found with
  | some op =>
      simp only [unary, unaryWith, bind_assoc, pure_bind]
      rfl
  | none =>
      simp only [pure_bind]
      rfl

theorem run_bare_operandWith (nested : Rule Exp) (cursor : Cursor) :
    (do return .bare (← operandWith nested) : Rule Unary).run cursor =
      (if cursor.kind = .identifier ∧ cursor.nextKind = .openParen then
        (do return .bare (.call (← callWith nested)) : Rule Unary)
      else
        (do return .bare (.primary (← primaryWith nested)) : Rule Unary)).run cursor := by
  change ((if cursor.kind = .identifier ∧ cursor.nextKind = .openParen then
      (do return .call (← callWith nested)) else (do return .primary (← primaryWith nested)) :
      Rule Operand) >>= fun operand => pure (Unary.bare operand)).run cursor = _
  split <;> simp only [bind_assoc, pure_bind]

theorem stats_eq :
    stats = (do
      match ← stat with
      | some first => return first :: (← stats)
      | none => return [] : Rule Block) :=
  funext run_stats

end Lunette.Rule
