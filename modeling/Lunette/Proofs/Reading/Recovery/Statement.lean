import Lunette.Proofs.Reading.Recovery.Expression

/-!
# Statements are recovered

A shaped statement is recovered from every spelling of it inside a block, whatever follows,
because a semicolon ends it.  Statements in a row are recovered where no statement starts
behind them.  A nested block never has to end at the end marker, and the outermost block
does.
-/

namespace Lunette.Rule

open Ast

/-- No statement starts at the cursor. -/
structure EndsBlock (after : Cursor) : Prop where
  notLocal : after.kind ≠ .localWord
  notIf : after.kind ≠ .ifWord
  notAssign : after.nextKind ≠ .assign
  notCall : ¬(after.kind = .openParen ∨ after.kind = .identifier)

/-- Whether a statement starts does not depend on the blocks that are open. -/
theorem EndsBlock.inBlock {after : Cursor} (ends : EndsBlock after) :
    EndsBlock { after with depth := after.depth + 1 } :=
  ⟨ends.notLocal, ends.notIf, ends.notAssign, ends.notCall⟩

/-- No statement starts at a word that ends a block, unless an assignment sign follows. -/
theorem endsBlock_before_cons {kind : Kind} {token : Token} {tokens : List Token}
    {after : Cursor} (isKind : token.kind = kind)
    (endsBody : kind = .elseWord ∨ kind = .endWord)
    (notAssign : (after.before tokens).kind ≠ .assign) :
    EndsBlock (after.before (token :: tokens)) := by
  subst kind
  constructor
  · rw [Cursor.kind_before_cons]
    rcases endsBody with isElse | isEnd <;> simp [*]
  · rw [Cursor.kind_before_cons]
    rcases endsBody with isElse | isEnd <;> simp [*]
  · rwa [Cursor.nextKind_before_cons]
  · rw [Cursor.kind_before_cons]
    rcases endsBody with isElse | isEnd <;> simp [*]

/-- No statement starts at the end of the tokens. -/
theorem endsBlock_of_nil {after : Cursor} (restEq : after.rest = []) : EndsBlock after := by
  rcases after with ⟨rest, marker, depth⟩
  cases restEq
  constructor <;> simp [Cursor.kind, Cursor.nextKind]

/-- Where neither of the two first words stands the choice falls on the next token. -/
theorem run_stat_of_ne {cursor : Cursor} (notLocal : cursor.kind ≠ .localWord)
    (notIf : cursor.kind ≠ .ifWord) :
    stat.run cursor =
      (if cursor.nextKind = .assign then some <$> assignment
        else if cursor.kind = .openParen ∨ cursor.kind = .identifier then
          some <$> callStatement
        else pure none : Rule (Option Stat)).run cursor := by
  unfold stat statWith
  rw [run_bind, run_accept, if_neg (by simpa using notLocal)]
  dsimp only
  rw [run_bind, run_accept, if_neg (by simpa using notIf)]
  rfl

namespace Recovers

variable {tokens : List Token} {after : Cursor}

/-! ## The choice between statements -/

theorem stat_none (ends : EndsBlock after) : Recovers Rule.stat [] none after := by
  unfold Recovers
  rw [Cursor.before_nil, run_stat_of_ne ends.notLocal ends.notIf, if_neg ends.notAssign,
    if_neg ends.notCall]
  rfl

theorem stat_assignment {value : Stat} (isName : (after.before tokens).kind = .identifier)
    (isAssign : (after.before tokens).nextKind = .assign)
    (recovers : Recovers assignment tokens value after) :
    Recovers Rule.stat tokens (some value) after := by
  unfold Recovers
  rw [run_stat_of_ne (by simp [isName]) (by simp [isName]), if_pos isAssign]
  exact recovers.map some

theorem stat_call {value : Stat}
    (starts : (after.before tokens).kind = .openParen ∨ (after.before tokens).kind = .identifier)
    (notAssign : (after.before tokens).nextKind ≠ .assign)
    (recovers : Recovers callStatement tokens value after) :
    Recovers Rule.stat tokens (some value) after := by
  unfold Recovers
  rw [run_stat_of_ne _ _, if_neg notAssign, if_pos starts]
  · exact recovers.map some
  · rcases starts with isOpen | isName <;> simp [*]
  · rcases starts with isOpen | isName <;> simp [*]

/-- The first word of a conditional statement leads to the rest of it. -/
theorem stat_conditional {word : Token} {value : Stat} (isIf : word.kind = .ifWord)
    (recovers : Recovers (conditionalWith Rule.block) tokens value after) :
    Recovers Rule.stat (word :: tokens) (some value) after := by
  apply accept_none_bind
  · rw [Cursor.kind_before_cons, isIf]
    rfl
  · exact accept_kind_bind isIf (recovers.map some)

/-- Statements in a row are recovered one by one. -/
theorem stats_iff {values : Block} :
    Recovers Rule.stats tokens values after ↔
      Recovers
        (do
          match ← Rule.stat with
          | some first => return first :: (← Rule.stats)
          | none => return [])
        tokens values after := by
  unfold Recovers
  exact iff_of_eq (congrArg (· = EStateM.Result.ok values after) (run_stats _))

/-! ## Statements without blocks -/

theorem declaration {target : Token} {value : Option Exp}
    (shaped : (Stat.declare target value).Shaped)
    (filled : Slot.Filled (Stat.declare target value).unled tokens) :
    Recovers Rule.declaration tokens (.declare target value) after := by
  cases value with
  | none =>
      rcases Slot.filled_cons_iff.mp filled with ⟨target, _, rfl, endFilled, rfl⟩
      rcases Slot.filled_cons_iff.mp endFilled with ⟨closing, _, isSemicolon, nilFilled, rfl⟩
      cases nilFilled
      apply expect_bind shaped
      apply accept_none_bind
      · rw [Cursor.kind_before_cons, show closing.kind = .semicolon from isSemicolon]
        rfl
      · exact expect_bind isSemicolon (pure _ _)
  | some value =>
      rcases Slot.filled_valued_iff.mp filled with
        ⟨sign, inside, closing, isAssign, valueFilled, isSemicolon, rfl⟩
      apply expect_bind shaped.1
      apply accept_kind_bind isAssign
      have ends : EndsExp (after.before [closing]) :=
        endsExp_before_cons isSemicolon (by decide) rfl
      apply Recovers.bind ((exp shaped.2 valueFilled ends).map some)
      exact expect_bind isSemicolon (pure _ _)

theorem assignment {target : Token} {value : Exp} (shaped : (Stat.assign target value).Shaped)
    (filled : Slot.Filled (Stat.assign target value).unled tokens) :
    Recovers Rule.assignment tokens (.assign target value) after := by
  rcases Slot.filled_valued_iff.mp filled with
    ⟨sign, inside, closing, isAssign, valueFilled, isSemicolon, rfl⟩
  have ends : EndsExp (after.before [closing]) :=
    endsExp_before_cons isSemicolon (by decide) rfl
  apply expect_bind shaped.1
  apply expect_bind isAssign
  apply Recovers.bind (exp shaped.2 valueFilled ends)
  exact expect_bind isSemicolon (pure _ _)

theorem callStatement {inner : Call} (shaped : inner.Shaped)
    (filled : Slot.Filled (Stat.call inner).unled tokens) :
    Recovers Rule.callStatement tokens (.call inner) after := by
  rcases Slot.filled_append_iff.mp filled with ⟨front, _, innerFilled, endFilled, rfl⟩
  rcases Slot.filled_cons_iff.mp endFilled with ⟨closing, _, isSemicolon, nilFilled, rfl⟩
  cases nilFilled
  apply Recovers.bind (call shaped innerFilled)
  exact expect_bind isSemicolon (pure _ _)

/-- What follows the first token of a callable phrase is not an assignment sign. -/
theorem call_starts {inner : Call} (callable : inner.callee.IsCallable) (shaped : inner.Shaped)
    (filled : Slot.Filled inner.written tokens) :
    ((after.before tokens).kind = .openParen ∨ (after.before tokens).kind = .identifier) ∧
      (after.before tokens).nextKind ≠ .assign := by
  rcases inner with ⟨callee, args⟩
  rcases Slot.filled_append_iff.mp filled with ⟨front, back, calleeFilled, argsFilled, rfl⟩
  rw [Cursor.before_append]
  cases callee with
  | term name =>
      rcases Slot.filled_cons_iff.mp calleeFilled with ⟨name, _, rfl, nilFilled, rfl⟩
      cases nilFilled
      rw [Cursor.nextKind_before_cons, Cursor.before_nil, kind_before_args argsFilled]
      exact ⟨Or.inr callable, by decide⟩
  | paren value =>
      rcases Slot.filled_parenthesized_iff.mp calleeFilled with
        ⟨opening, inside, closing, isOpen, valueFilled, -, rfl⟩
      rw [Cursor.nextKind_before_cons, Cursor.before_append]
      exact ⟨Or.inl isOpen, ne_of_startsExp (startsExp_before shaped.1 valueFilled) rfl⟩

/-! ## Blocks and conditional statements -/

/-- A block is recovered from its statements, which are read with one more block open. -/
theorem block_of_stats {values : Block}
    (recovers : Recovers Rule.stats tokens values { after with depth := after.depth + 1 })
    (outermost : after.depth = 0 → after.kind = .endOfInput) :
    Recovers Rule.block tokens values after := by
  unfold Recovers at recovers ⊢
  change Rule.stats.run { after.before tokens with depth := after.depth + 1 } = _ at recovers
  rw [run_block_eq_run_blockOf, run_blockOf, Cursor.depth_before, recovers]
  exact if_neg fun unread => unread.2 (outermost unread.1)

theorem conditionalEnd (filled : Slot.Filled Stat.conditionalEnd tokens) :
    Recovers Rule.conditionalEnd tokens () after := by
  rcases Slot.filled_cons_iff.mp filled with ⟨word, _, isEnd, backFilled, rfl⟩
  rcases Slot.filled_cons_iff.mp backFilled with ⟨closing, _, isSemicolon, nilFilled, rfl⟩
  cases nilFilled
  exact expect_bind isEnd (expect_bind isSemicolon (pure _ _))

/-- Statements in a row do not begin with an assignment sign, nor does what ends them. -/
theorem notAssign_before {values : List Stat} (shaped : Stat.AllShaped values)
    (filled : Slot.Filled (Stat.writtenAll values) tokens) (notAssign : after.kind ≠ .assign) :
    (after.before tokens).kind ≠ .assign := by
  cases values with
  | nil =>
      cases filled
      exact notAssign
  | cons first rest =>
      cases first with
      | declare target value => simp [Cursor.kind_before_of_filled filled, Slot.kind]
      | ifThen condition body => simp [Cursor.kind_before_of_filled filled, Slot.kind]
      | ifThenElse condition body other =>
          simp [Cursor.kind_before_of_filled filled, Slot.kind]
      | assign target value =>
          rw [Cursor.kind_before_of_filled filled]
          change target.kind ≠ .assign
          rw [shaped.1.1]
          decide
      | call inner =>
          rcases Slot.filled_append_iff.mp filled with ⟨_, back, firstFilled, -, rfl⟩
          change Slot.Filled (Stat.call inner).unled _ at firstFilled
          rcases Slot.filled_append_iff.mp firstFilled with ⟨front, last, innerFilled, -, rfl⟩
          rw [Cursor.before_append, Cursor.before_append]
          rcases (call_starts shaped.1.1 shaped.1.2 innerFilled).1 with isOpen | isName
          · rw [isOpen]
            decide
          · rw [isName]
            decide

/-- A word that ends a body is followed by a statement or by another such word. -/
theorem endsBlock_end {last : List Token} (filled : Slot.Filled Stat.conditionalEnd last) :
    EndsBlock (after.before last) := by
  rcases Slot.filled_cons_iff.mp filled with ⟨word, _, isEnd, backFilled, rfl⟩
  apply endsBlock_before_cons isEnd (Or.inr rfl)
  rw [Cursor.kind_before_of_filled backFilled]
  decide

theorem endsBlock_else {elseToken : Token} {other : List Stat} {inner last : List Token}
    (isElse : elseToken.kind = .elseWord) (shaped : Stat.AllShaped other)
    (filled : Slot.Filled (Stat.writtenAll other) inner)
    (lastFilled : Slot.Filled Stat.conditionalEnd last) :
    EndsBlock (after.before (elseToken :: (inner ++ last))) := by
  apply endsBlock_before_cons isElse (Or.inl rfl)
  rw [Cursor.before_append]
  apply notAssign_before shaped filled
  rw [Cursor.kind_before_of_filled lastFilled]
  decide

/-- What a conditional statement begins with, up to the end of its body. -/
theorem conditional_front {condition : Exp} {body : Block} {next : Exp → Block → Rule Stat}
    {front inner back : List Token} {thenToken : Token} {value : Stat}
    (shaped : condition.Shaped) (filled : Slot.Filled condition.written front)
    (isThen : thenToken.kind = .thenWord)
    (bodyRecovers : Recovers Rule.block inner body (after.before back))
    (recovers : Recovers (next condition body) back value after) :
    Recovers
      (do
        let condition ← Rule.exp
        let _ ← Rule.expect .thenWord .conditionEnd
        let body ← Rule.block
        next condition body)
      (front ++ thenToken :: (inner ++ back)) value after := by
  apply Recovers.bind (exp shaped filled (endsExp_before_cons isThen (by decide) rfl))
  apply expect_bind isThen
  exact Recovers.bind bodyRecovers recovers

mutual

/-- A shaped statement is recovered inside a block, whatever follows. -/
theorem stat : ∀ {value : Stat} {tokens : List Token} {after : Cursor}, value.Shaped →
    Slot.Filled value.written tokens → 0 < after.depth →
    Recovers Rule.stat tokens (some value) after
  | .declare _ _, _, _, shaped, filled, _ => by
      rcases Slot.filled_cons_iff.mp filled with ⟨word, back, isLocal, backFilled, rfl⟩
      apply accept_kind_bind isLocal
      exact (declaration shaped backFilled).map some
  | .assign _ _, _, after, shaped, filled, _ => by
      have recovers := @assignment _ after _ _ shaped filled
      rcases Slot.filled_valued_iff.mp filled with
        ⟨sign, inside, closing, isAssign, -, -, rfl⟩
      exact stat_assignment shaped.1 isAssign recovers
  | .call _, _, after, ⟨callable, shaped⟩, filled, _ => by
      have recovers := @callStatement _ after _ shaped filled
      change Slot.Filled (Stat.call _).unled _ at filled
      rcases Slot.filled_append_iff.mp filled with ⟨front, back, innerFilled, -, rfl⟩
      have starts := @call_starts _ (after.before back) _ callable shaped innerFilled
      rw [← Cursor.before_append] at starts
      exact stat_call starts.1 starts.2 recovers
  | .ifThen _ _, _, after, ⟨conditionShaped, bodyShaped⟩, filled, inBlock => by
      rcases Slot.filled_cons_iff.mp filled with ⟨word, _, isIf, unledFilled, rfl⟩
      rcases Stat.filled_ifThen_iff.mp unledFilled with
        ⟨front, thenToken, inner, last, conditionFilled, isThen, bodyFilled, lastFilled, rfl⟩
      have bodyRecovers : Recovers Rule.block inner _ (after.before last) :=
        block_of_stats
          (stats bodyShaped bodyFilled (endsBlock_end lastFilled).inBlock (Nat.succ_pos _))
          fun isOutermost => absurd isOutermost (Nat.ne_of_gt inBlock)
      apply stat_conditional isIf
      apply conditional_front conditionShaped conditionFilled isThen bodyRecovers
      apply accept_none_bind
      · rw [Cursor.kind_before_of_filled lastFilled]
        rfl
      · exact bind_last (conditionalEnd lastFilled) (pure _ _)
  | .ifThenElse _ _ _, _, after, ⟨conditionShaped, bodyShaped, otherShaped⟩, filled, inBlock => by
      rcases Slot.filled_cons_iff.mp filled with ⟨word, _, isIf, unledFilled, rfl⟩
      rcases Stat.filled_ifThenElse_iff.mp unledFilled with ⟨front, thenToken, inner, elseToken,
        outer, last, conditionFilled, isThen, bodyFilled, isElse, otherFilled, lastFilled, rfl⟩
      have bodyRecovers :
          Recovers Rule.block inner _ (after.before (elseToken :: (outer ++ last))) :=
        block_of_stats
          (stats bodyShaped bodyFilled
            (endsBlock_else isElse otherShaped otherFilled lastFilled).inBlock (Nat.succ_pos _))
          fun isOutermost => absurd isOutermost (Nat.ne_of_gt inBlock)
      have otherRecovers : Recovers Rule.block outer _ (after.before last) :=
        block_of_stats
          (stats otherShaped otherFilled (endsBlock_end lastFilled).inBlock (Nat.succ_pos _))
          fun isOutermost => absurd isOutermost (Nat.ne_of_gt inBlock)
      apply stat_conditional isIf
      apply conditional_front conditionShaped conditionFilled isThen bodyRecovers
      apply accept_kind_bind isElse
      apply Recovers.bind otherRecovers
      exact bind_last (conditionalEnd lastFilled) (pure _ _)

theorem stats : ∀ {values : List Stat} {tokens : List Token} {after : Cursor},
    Stat.AllShaped values → Slot.Filled (Stat.writtenAll values) tokens → EndsBlock after →
    0 < after.depth → Recovers Rule.stats tokens values after
  | [], _, _, _, filled, ends, _ => by
      cases filled
      rw [stats_iff]
      exact bind_last (stat_none ends) (pure _ _)
  | _ :: _, _, _, ⟨firstShaped, restShaped⟩, filled, ends, inBlock => by
      rcases Slot.filled_append_iff.mp filled with ⟨front, back, firstFilled, restFilled, rfl⟩
      rw [stats_iff]
      apply Recovers.bind (stat firstShaped firstFilled inBlock)
      exact bind_last (stats restShaped restFilled ends inBlock) (pure _ _)

end

/-- A block is recovered where no statement starts behind it; the outermost one has to be
followed by the end marker. -/
theorem block {values : Block} (shaped : Stat.AllShaped values)
    (filled : Slot.Filled (Stat.writtenAll values) tokens) (ends : EndsBlock after)
    (outermost : after.depth = 0 → after.kind = .endOfInput) :
    Recovers Rule.block tokens values after :=
  block_of_stats (stats shaped filled ends.inBlock (Nat.succ_pos _)) outermost

end Recovers

end Lunette.Rule
