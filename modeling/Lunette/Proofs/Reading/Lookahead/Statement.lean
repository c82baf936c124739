import Lunette.Proofs.Reading.Lookahead.Expression

/-!
# How far statements look ahead

The rules for statements are local.  A statement is chosen by the token at the cursor and by
whether an assignment sign stands behind it; where the first of the two is a name, it is read
whatever the choice is.
-/

namespace Lunette.Rule

open Ast

/-- Read a call that stands alone, or nothing where none starts. -/
def optionalCall : Rule (Option Stat) := do
  let cursor ← get
  if cursor.kind = .openParen ∨ cursor.kind = .identifier then
    some <$> callStatement
  else
    return none

/-- Read a statement that begins with no word of its own, or nothing where none starts. -/
def unledStat : Rule (Option Stat) := do
  let cursor ← get
  if cursor.nextKind = .assign then
    some <$> assignment
  else if cursor.kind = .openParen ∨ cursor.kind = .identifier then
    some <$> callStatement
  else
    return none

namespace TakesName

theorem assignment : TakesName assignment :=
  .bind name fun _ => .bind (.expect _ _) fun _ => .bind .exp fun _ =>
    .bind (.expect _ _) fun _ => .pure _

theorem callStatement : TakesName callStatement :=
  .bind (callWith .exp) fun _ => .bind (.expect _ _) fun _ => .pure _

theorem optionalCall : TakesName optionalCall where
  length_lt {cursor after verdict} isName stops := by
    change (if _ then _ else _ : Rule (Option Stat)).run cursor = _ at stops
    rw [if_pos (Or.inr isName)] at stops
    exact (callStatement.map some).length_lt isName stops

theorem unledStat : TakesName unledStat where
  length_lt {cursor after verdict} isName stops := by
    change (if _ then _ else if _ then _ else _ : Rule (Option Stat)).run cursor = _ at stops
    split at stops
    · exact (assignment.map some).length_lt isName stops
    · exact optionalCall.length_lt isName stops

end TakesName

namespace Local

theorem declaration : Local declaration := by
  apply bind .name
  intro target
  apply bind (.accept rfl)
  intro sign
  cases sign with
  | some token =>
      exact .bind (.map _ .exp) fun _ => .bind (.expect _ (by decide)) fun _ => .pure _
  | none => exact .bind (.pure _) fun _ => .bind (.expect _ (by decide)) fun _ => .pure _

theorem assignment : Local assignment :=
  .bind .name fun _ => .bind (.expect _ (by decide)) fun _ => .bind .exp fun _ =>
    .bind (.expect _ (by decide)) fun _ => .pure _

theorem callStatement : Local callStatement :=
  .bind (.callWith .exp) fun _ => .bind (.expect _ (by decide)) fun _ => .pure _

theorem conditionalEnd : Local conditionalEnd :=
  .bind (.expect _ (by decide)) fun _ => .bind (.expect _ (by decide)) fun _ => .pure _

theorem optionalCall : Local optionalCall := by
  apply choice (fun cursor => cursor.kind = .openParen ∨ cursor.kind = .identifier)
    (fun _ => rfl)
  · exact callStatement.map _
  · exact .pure _
  · exact .optionalCall
  · intro after other alike front depth _
    rw [(alike.source front depth).kind]

/-- An assignment sign behind a name is looked for where the name is read in any case. -/
theorem unledStat : Local unledStat := by
  apply choice (fun cursor => cursor.nextKind = .assign)
  · intro cursor
    change (if _ then _ else if _ then _ else _ : Rule (Option Stat)).run cursor =
      (if _ then some <$> Rule.assignment else Rule.optionalCall).run cursor
    split <;> rfl
  · exact assignment.map _
  · exact optionalCall
  · exact .unledStat
  · intro after other alike front depth notName
    cases front with
    | nil => exact alike.assign (notName rfl)
    | cons token front => rw [alike.nextKind_source]

section Nested

variable {block : Rule Block} (nested : Local block)

include nested

theorem conditionalWith : Local (conditionalWith block) := by
  apply bind .exp
  intro condition
  apply bind (.expect _ (by decide))
  intro word
  apply nested.bind
  intro body
  apply bind (.accept rfl)
  intro choice
  cases choice with
  | some token => exact nested.bind fun _ => .bind .conditionalEnd fun _ => .pure _
  | none => exact .bind .conditionalEnd fun _ => .pure _

theorem statWith : Local (statWith block) := by
  apply bind (.accept rfl)
  intro word
  cases word with
  | some token => exact .map _ .declaration
  | none =>
      apply bind (.accept rfl)
      intro word
      cases word with
      | some token => exact .map _ (conditionalWith nested)
      | none => exact .unledStat

end Nested

theorem statsWithin {stat : Rule (Option Stat)} (nested : Local stat) (bound : Nat) :
    Local (statsWithin stat bound) := by
  induction bound with
  | zero => exact .pure _
  | succ bound inductionHypothesis =>
      apply nested.bind
      intro found
      cases found with
      | some first => exact inductionHypothesis.bind fun _ => .pure _
      | none => exact .pure _

theorem blockEnd_alike {values : Block} {after between other : Cursor}
    {verdict : Except ParseError Block} (alike : after.Alike other)
    (stops : blockEnd values between = stop verdict after) :
    between = after ∧ blockEnd values other = stop verdict other := by
  have betweenEq : between = after := by
    unfold blockEnd at stops
    split at stops
    · exact (error_eq_stop_iff.mp stops).2
    · exact (ok_eq_stop_iff.mp stops).2
  subst betweenEq
  refine ⟨rfl, ?_⟩
  unfold blockEnd at stops ⊢
  rw [← alike.depth, ← alike.kind, ← alike.current]
  by_cases unread : between.depth = 0 ∧ between.kind ≠ .endOfInput
  · rw [if_pos unread] at stops ⊢
    obtain ⟨rfl, -⟩ := error_eq_stop_iff.mp stops
    rfl
  · rw [if_neg unread] at stops ⊢
    obtain ⟨rfl, -⟩ := ok_eq_stop_iff.mp stops
    rfl

/-- The statements of a block are read with one more block open than the check at its end. -/
theorem run_blockOf_source (stats : Rule Block) (cursor : Cursor) (front : List Token)
    (depth : Nat) :
    (blockOf stats).run (cursor.source front depth) =
      match stats.run (cursor.source front (depth + 1)) with
      | .ok values inner => blockEnd values (inner.source [] (inner.depth - 1))
      | .error error after => .error error after :=
  run_blockOf_eq_blockEnd stats _

theorem blockOf {stats : Rule Block} (nested : Local stats) : Local (blockOf stats) := by
  refine ⟨.blockOf nested.forward, ?_⟩
  intro after other alike front depth verdict stops
  rw [run_blockOf_source] at stops ⊢
  cases statsEq : stats.run (after.source front (depth + 1)) with
  | error error between =>
      simp only [statsEq] at stops
      obtain ⟨rfl, rfl⟩ := error_eq_stop_iff.mp stops
      have same : stats.run (other.source front (depth + 1)) = stop (.error error) other :=
        nested.same alike statsEq
      rw [same]
      rfl
  | ok values inner =>
      simp only [statsEq] at stops
      obtain ⟨innerEq, ends⟩ := blockEnd_alike alike stops
      have sameDepth : inner.depth = depth + 1 := (nested.forward.ok statsEq).2.2
      have inside : inner = after.source [] (depth + 1) := by
        rw [← innerEq, ← sameDepth]
        rfl
      rw [inside] at statsEq
      have same : stats.run (other.source front (depth + 1)) =
          stop (.ok values) (other.source [] (depth + 1)) :=
        nested.same (alike.source [] (depth + 1)) statsEq
      have closed : (other.source [] (depth + 1)).source [] depth = other := by
        have otherDepth : depth = other.depth := by
          rw [← alike.depth, ← innerEq, Cursor.source, sameDepth]
          rfl
        rw [otherDepth]
        rfl
      rw [same]
      change blockEnd values ((other.source [] (depth + 1)).source [] depth) = _
      rw [closed]
      exact ends

theorem blockWithin (bound : Nat) : Local (blockWithin bound) := by
  induction bound with
  | zero => exact blockOf (.pure _)
  | succ bound inductionHypothesis => exact blockOf (.statsWithin (.statWith inductionHypothesis) _)

/-- A block is read, or not read, for what stands up to the token behind the place where the
reading ends. -/
theorem block : Local block :=
  .bounded blockWithin run_blockWithin_of_le

end Local

end Lunette.Rule
