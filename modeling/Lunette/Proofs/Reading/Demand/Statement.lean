import Lunette.Proofs.Reading.Account.Statement
import Lunette.Proofs.Reading.Demand.Expression

/-!
# What failing statements demand

A statement that fails demands a kind that goes on to a statement, and a block inside another
one demands what goes on to a block.  Only the outermost block can fail for another reason:
all its statements have been read, and a token is left behind them.
-/

namespace Lunette.Rule

open Ast Grammar

/-- What is known of a rule for nested blocks: where it fails with a block open it demands a
kind that goes on to a block. -/
structure ReadsBlock (block : Rule Block) : Prop where
  forward : Forward block
  reads : Reads block (Spells Stat.AllShaped Stat.writtenAll)
  demands {cursor : Cursor} (inBlock : 0 < cursor.depth) :
    Demands block cursor (Form.Derives rule Grammar.block)

namespace Demands

variable {cursor : Cursor}

/-! ## Statements without blocks -/

theorem declaration :
    Demands declaration cursor fun kinds => Phrase.stat.Derives (.localWord :: kinds) := by
  apply expect_bind (by decide)
  · exact ⟨_, Phrase.derives_stat_declare_bare⟩
  · intro target between _
    apply accept_kind_bind (by decide)
    · intro sign behind _
      have values : Reads (some <$> Rule.exp) fun found tokens =>
          ∃ value, found = some value ∧ Spells Exp.Shaped Exp.written value tokens :=
        Reads.exp.map fun value _ spells => ⟨value, rfl, spells⟩
      apply bind (.map some .exp) values
      · apply Demands.map
        apply (ReadsExp.exp.demands behind).mono
        intro kinds derives
        exact ⟨[.semicolon], Phrase.derives_stat_declare derives⟩
      · rintro _ tokens after ⟨value, -, spells⟩ _ _
        have whole := Phrase.derives_stat_declare (spells.derives Exp.Shaped.derives)
        exact (expect _ ⟨[], whole⟩).bind_pure _
    · intro _
      apply bind_pure
      exact expect _ ⟨_, Phrase.derives_stat_declare_bare⟩

theorem assignment : Demands assignment cursor Phrase.stat.Derives := by
  have whole : Phrase.stat.Derives [.identifier, .assign, .identifier, .semicolon] :=
    Phrase.derives_stat_assign
      (Phrase.derives_exp_single (Phrase.derives_unary_single (Or.inl rfl)))
  apply expect_bind (by decide)
  · exact ⟨_, whole⟩
  · intro target between _
    apply expect_bind (by decide)
    · exact ⟨_, whole⟩
    · intro sign behind _
      apply bind .exp .exp
      · apply (ReadsExp.exp.demands behind).mono
        intro kinds derives
        exact ⟨[.semicolon], Phrase.derives_stat_assign derives⟩
      · intro value tokens after spells _ _
        have whole := Phrase.derives_stat_assign (spells.derives Exp.Shaped.derives)
        exact (expect _ ⟨[], whole⟩).bind_pure _

/-- Where a call is chosen, what is called can be called there. -/
theorem callStatement (starts : cursor.kind = .openParen ∨ cursor.kind = .identifier) :
    Demands callStatement cursor Phrase.stat.Derives := by
  have called {first kinds : List Kind} (isCalled : Called first)
      (derives : Phrase.args.Derives kinds) :
      Phrase.stat.Derives (first ++ (kinds ++ [.semicolon])) :=
    Phrase.derives_stat_call isCalled derives
  have front (value : Primary) (tokens more : List Token)
      (spells : Spells Primary.Shaped Primary.written value tokens)
      (restEq : cursor.rest = tokens ++ more) : Called (tokens.map Token.kind) := by
    have isCallable := (callable_of_kind restEq spells).2 starts
    exact spells.derives fun shaped => shaped.derives_callee isCallable
  have calls : Demands call cursor Phrase.stat.Derives := by
    apply callWith .exp Called
    · apply (primaryWith .exp).mono
      intro kinds isCalled
      exact ⟨_, called isCalled Phrase.derives_args_empty⟩
    · exact front
    · intro first kinds isCalled derives
      exact ⟨[.semicolon], called isCalled derives⟩
  apply bind (.callWith .exp) (.callWith .exp) calls
  rintro ⟨callee, args⟩ tokens between spells restEq _
  rcases Slot.filled_append_iff.mp spells.filled with
    ⟨first, second, firstFilled, secondFilled, rfl⟩
  rw [List.append_assoc] at restEq
  have isCalled := front callee first _ ⟨spells.shaped.1, firstFilled⟩ restEq
  have derives : Phrase.args.Derives (second.map Token.kind) :=
    Spells.derives ⟨spells.shaped.2, secondFilled⟩ Args.Shaped.derives
  have whole := called isCalled derives
  rw [← List.append_assoc, ← List.map_append] at whole
  exact (expect _ ⟨[], whole⟩).bind_pure _

/-! ## Conditional statements -/

theorem conditionalEnd {Completed : List Kind → Prop}
    (complete : Completed [.endWord, .semicolon]) : Demands conditionalEnd cursor Completed := by
  apply expect_bind (by decide)
  · exact ⟨_, complete⟩
  · intro word between _
    apply bind_pure
    exact expect _ ⟨_, complete⟩

section Nested

variable {block : Rule Block} (nested : ReadsBlock block)

include nested

theorem conditionalWith (inBlock : 0 < cursor.depth) :
    Demands (conditionalWith block) cursor fun kinds =>
      Phrase.stat.Derives (.ifWord :: kinds) := by
  apply bind .exp .exp
  · apply (ReadsExp.exp.demands cursor).mono
    intro kinds derives
    exact ⟨_, Phrase.derives_stat_ifThen derives .done⟩
  intro condition first between conditionSpells _ betweenDepth
  have condition := conditionSpells.derives Exp.Shaped.derives
  apply expect_bind (by decide)
  · exact ⟨_, Phrase.derives_stat_ifThen condition .done⟩
  intro word inside insideDepth
  have insideBlock : 0 < inside.depth := by rwa [insideDepth, betweenDepth]
  apply bind nested.forward nested.reads
  · apply (nested.demands insideBlock).mono
    intro kinds derives
    exact ⟨_, Phrase.derives_stat_ifThen condition derives⟩
  intro body second behind bodySpells _ behindDepth
  have body := bodySpells.derives Stat.AllShaped.derives
  apply accept_kind_bind (by decide)
  · intro choice other otherDepth
    have otherBlock : 0 < other.depth := by rwa [otherDepth, behindDepth]
    apply bind nested.forward nested.reads
    · apply (nested.demands otherBlock).mono
      intro kinds derives
      exact ⟨_, Phrase.derives_stat_ifThenElse condition body derives⟩
    intro values third last otherSpells _ _
    have other := otherSpells.derives Stat.AllShaped.derives
    have whole := Phrase.derives_stat_ifThenElse condition body other
    exact (conditionalEnd whole).bind_pure _
  · intro _
    exact (conditionalEnd (Phrase.derives_stat_ifThen condition body)).bind_pure _

/-! ## The choice between statements, and blocks -/

theorem statWith (inBlock : 0 < cursor.depth) :
    Demands (statWith block) cursor Phrase.stat.Derives := by
  apply accept_kind_bind (by decide)
  · intro word between _
    exact declaration.map some
  · intro _
    apply accept_kind_bind (by decide)
    · intro word between betweenDepth
      have stillInBlock : 0 < between.depth := by rwa [betweenDepth]
      exact (conditionalWith nested stillInBlock).map some
    · intro _ error after errorEq
      change (if cursor.nextKind = .assign then _ else if _ then _ else _ :
        Rule (Option Stat)).run cursor = _ at errorEq
      split at errorEq
      · exact assignment.map some error after errorEq
      · split at errorEq
        · rename_i starts
          exact (callStatement starts).map some error after errorEq
        · cases errorEq

theorem statsWithin (bound : Nat) (inBlock : 0 < cursor.depth) :
    Demands (statsWithin (Rule.statWith block) bound) cursor
      (Form.Derives rule Grammar.block) := by
  induction bound generalizing cursor with
  | zero => exact pure _
  | succ bound inductionHypothesis =>
      apply bind (.statWith nested.forward) (.statWith nested.reads)
      · apply (statWith nested inBlock).mono
        intro kinds derives
        exact ⟨[], .again derives .done⟩
      · intro found tokens between chosen _ betweenDepth
        cases found with
        | none => exact pure _
        | some first =>
            have stillInBlock : 0 < between.depth := by rwa [betweenDepth]
            have derives : Phrase.stat.Derives (tokens.map Token.kind) :=
              Spells.derives chosen Stat.Shaped.derives
            apply bind_pure
            apply (inductionHypothesis stillInBlock).imp
            intro kinds others
            exact .again derives others

end Nested

end Demands

/-- A block fails where its statements do, or, as the outermost one, where a token is left
behind them. -/
theorem run_blockOf_eq_error {stats : Rule Block} {cursor after : Cursor} {error : ParseError}
    (forward : Forward stats) (errorEq : (blockOf stats).run cursor = .error error after) :
    stats.run { cursor with depth := cursor.depth + 1 } = .error error after ∨
      (cursor.depth = 0 ∧ after.depth = 0 ∧ after.kind ≠ .endOfInput ∧
        error = .unexpectedTopLevel after.current ∧
        ∃ values, stats.run { cursor with depth := 1 } =
          .ok values { after with depth := 1 }) := by
  rw [run_blockOf] at errorEq
  split at errorEq
  · rename_i values between statsEq
    have sameDepth : between.depth = cursor.depth + 1 := (forward.ok statsEq).2.2
    dsimp only at errorEq
    split at errorEq
    · rename_i unread
      cases errorEq
      have outermost : cursor.depth = 0 := by
        rw [sameDepth] at unread
        exact unread.1
      rw [outermost] at statsEq sameDepth
      rcases between with ⟨rest, marker, depth⟩
      cases sameDepth
      exact Or.inr ⟨outermost, rfl, unread.2, rfl, values, statsEq⟩
    · cases errorEq
  · cases errorEq
    rename_i statsEq
    exact Or.inl statsEq

namespace Demands

theorem blockOf {stats : Rule Block} {cursor : Cursor} {Completed : List Kind → Prop}
    (forward : Forward stats) (inBlock : 0 < cursor.depth)
    (demands : Demands stats { cursor with depth := cursor.depth + 1 } Completed) :
    Demands (blockOf stats) cursor Completed := by
  intro error after errorEq
  rcases run_blockOf_eq_error forward errorEq with inside | outermost
  · exact demands error after inside
  · exact absurd outermost.1 (Nat.ne_of_gt inBlock)

end Demands

namespace ReadsBlock

theorem blockWithin (bound : Nat) : ReadsBlock (blockWithin bound) := by
  induction bound with
  | zero =>
      exact ⟨.blockWithin 0, .blockWithin 0, fun inBlock => .blockOf (.pure _) inBlock (.pure _)⟩
  | succ bound inductionHypothesis =>
      have forward : Forward (statsWithin (statWith (Rule.blockWithin bound)) (bound + 1)) :=
        .statsWithin (.statWith inductionHypothesis.forward) _
      exact ⟨.blockWithin _, .blockWithin _, fun inBlock =>
        .blockOf forward inBlock (.statsWithin inductionHypothesis _ (Nat.succ_pos _))⟩

/-- A block inside another one that cannot be read demands a kind that goes on to one. -/
theorem block : ReadsBlock block where
  forward := .block
  reads := .block
  demands inBlock := .bounded fun bound => (blockWithin bound).demands inBlock

end ReadsBlock

/-- Statements in a row inside a block demand, where they fail, what goes on to more of them. -/
theorem Demands.stats {cursor : Cursor} (inBlock : 0 < cursor.depth) :
    Demands stats cursor (Form.Derives rule Grammar.block) :=
  .bounded fun bound => .statsWithin .block bound inBlock

/-- Where a block cannot be read, either it demands a kind that goes on to a sentence, or what
has been read is a sentence and a token is left behind it. -/
theorem demands_or_leaves {cursor after : Cursor} {error : ParseError}
    (errorEq : block.run cursor = .error error after) :
    ∃ read, cursor.rest = read ++ after.rest ∧
      ((∃ expected purpose more, error = .expectedToken expected purpose after.current ∧
          Sentence (read.map Token.kind ++ expected :: more)) ∨
        (error = .unexpectedTopLevel after.current ∧ Sentence (read.map Token.kind))) := by
  rw [run_block_eq_run_blockOf] at errorEq
  rcases run_blockOf_eq_error .stats errorEq with inside | ⟨-, -, -, rfl, values, statsEq⟩
  · obtain ⟨read, expected, purpose, more, rfl, restEq, derives⟩ :=
      Demands.stats (Nat.succ_pos _) error after inside
    exact ⟨read, restEq, Or.inl ⟨expected, purpose, more, rfl, .phrase derives⟩⟩
  · obtain ⟨read, restEq, spells⟩ := Reads.stats.account statsEq
    exact ⟨read, restEq, Or.inr ⟨rfl, .phrase (spells.derives Stat.AllShaped.derives)⟩⟩

/-- A block that cannot be read is reported at the token where the reading has stopped. -/
theorem found_of_block_eq_error {cursor after : Cursor} {error : ParseError}
    (errorEq : block.run cursor = .error error after) : error.found = after.current := by
  obtain ⟨read, -, outcome⟩ := demands_or_leaves errorEq
  rcases outcome with ⟨expected, purpose, more, rfl, -⟩ | ⟨rfl, -⟩ <;> rfl

end Lunette.Rule
