import Lunette.Proofs.Reading.Account.Expression

/-!
# The account of statements

The tokens that statements have been read from are a spelling of them.  The rules for
declarations and conditional statements start behind the first word, so they account for the
rest of the statement only; the rule that chooses between statements adds the word.
-/

namespace Lunette.Rule

open Ast

namespace Reads

/-- The written form behind the first word, which is the given one. -/
def Behind (lead : List Slot) (stat : Stat) (tokens : List Token) : Prop :=
  stat.lead = lead ∧ Spells Stat.Shaped Stat.unled stat tokens

/-- What the rule that chooses between statements accounts for. -/
def Chosen (found : Option Stat) (tokens : List Token) : Prop :=
  match found with
  | some stat => Spells Stat.Shaped Stat.written stat tokens
  | none => tokens = []

theorem Behind.chosen {lead : List Slot} {stat : Stat} {front tokens : List Token}
    (behind : Behind lead stat tokens) (filled : Slot.Filled lead front) :
    Chosen (some stat) (front ++ tokens) := by
  rcases behind with ⟨rfl, shaped, rest⟩
  exact .led filled ⟨shaped, rest⟩

theorem declaration : Reads declaration (Behind [.fixed .localWord]) := by
  apply name.bind
  rintro target _ ⟨isName, rfl⟩
  apply accept_kind_bind (by decide)
  · intro sign isAssign
    have values : Reads (some <$> Rule.exp) fun found tokens =>
        ∃ value, found = some value ∧ Spells Exp.Shaped Exp.written value tokens :=
      exp.map fun value _ spells => ⟨value, rfl, spells⟩
    apply values.bind
    rintro _ tokens ⟨value, rfl, spells⟩
    apply expect_bind (by decide)
    intro closing isSemicolon
    apply pure
    exact ⟨rfl, .declare isName isAssign spells isSemicolon⟩
  · apply expect_bind (by decide)
    intro closing isSemicolon
    apply pure
    exact ⟨rfl, .declareBare isName isSemicolon⟩

theorem assignment : Reads assignment fun stat tokens =>
    (∃ target value, stat = .assign target value) ∧ Behind [] stat tokens := by
  apply name.bind
  rintro target _ ⟨isName, rfl⟩
  apply expect_bind (by decide)
  intro sign isAssign
  apply exp.bind
  intro value tokens spells
  apply expect_bind (by decide)
  intro closing isSemicolon
  apply pure
  exact ⟨⟨target, value, rfl⟩, rfl, .assign isName isAssign spells isSemicolon⟩

/-- A call that stands alone may call anything, unless its first token says otherwise. -/
theorem callStatement : Reads callStatement fun stat tokens =>
    ∃ inner, stat = .call inner ∧ inner.Shaped ∧ Slot.Filled stat.unled tokens := by
  apply (callWith exp).bind
  intro inner tokens spells
  apply expect_bind (by decide)
  intro closing isSemicolon
  apply pure
  exact ⟨inner, rfl, spells.shaped, spells.filled.append (.cons isSemicolon .nil)⟩

theorem conditionalEnd : Reads conditionalEnd fun _ tokens =>
    Slot.Filled Stat.conditionalEnd tokens := by
  apply expect_bind (by decide)
  intro word isEnd
  apply expect_bind (by decide)
  intro closing isSemicolon
  apply pure
  exact Spells.conditionalEnd isEnd isSemicolon

section Nested

variable {block : Rule Block}

theorem conditionalWith (nested : Reads block (Spells Stat.AllShaped Stat.writtenAll)) :
    Reads (conditionalWith block) (Behind [.fixed .ifWord]) := by
  apply exp.bind
  intro condition first conditionSpells
  apply expect_bind (by decide)
  intro word isThen
  apply nested.bind
  intro body second bodySpells
  apply accept_kind_bind (by decide)
  · intro choice isElse
    apply nested.bind
    intro other third otherSpells
    apply conditionalEnd.bind
    intro _ last ending
    apply pure
    rw [List.append_nil]
    exact ⟨rfl, .ifThenElse conditionSpells isThen bodySpells isElse otherSpells ending⟩
  · apply conditionalEnd.bind
    intro _ last ending
    apply pure
    rw [List.append_nil]
    exact ⟨rfl, .ifThen conditionSpells isThen bodySpells ending⟩

/-- A statement is chosen by the token at the cursor and the one behind it. -/
theorem statWith (nested : Reads block (Spells Stat.AllShaped Stat.writtenAll)) :
    Reads (statWith block) Chosen := by
  apply accept_kind_bind (by decide)
  · intro word isLocal
    apply declaration.map
    intro stat tokens behind
    have lead : Slot.Filled [.fixed .localWord] [word] := .cons isLocal .nil
    exact behind.chosen lead
  · apply accept_kind_bind (by decide)
    · intro word isIf
      apply (conditionalWith nested).map
      intro stat tokens behind
      have lead : Slot.Filled [.fixed .ifWord] [word] := .cons isIf .nil
      exact behind.chosen lead
    · constructor
      intro cursor found after okEq
      change (if cursor.nextKind = .assign then _ else if _ then _ else _ :
        Rule (Option Stat)).run cursor = _ at okEq
      split at okEq
      · have assigns : Reads (some <$> Rule.assignment) Chosen :=
          assignment.map fun stat tokens assigned => assigned.2.chosen .nil
        exact assigns.account okEq
      · split at okEq
        · rename_i startsCall
          have calls : Reads (some <$> Rule.callStatement) fun found tokens => ∃ inner,
              found = some (.call inner) ∧ inner.Shaped ∧
                Slot.Filled (Stat.call inner).unled tokens :=
            callStatement.map fun stat tokens ⟨inner, statEq, spells⟩ =>
              ⟨inner, statEq ▸ ⟨rfl, spells⟩⟩
          rcases calls.account okEq with ⟨tokens, restEq, inner, rfl, shaped, filled⟩
          rcases Slot.filled_append_iff.mp filled with ⟨front, back, frontFilled, -, rfl⟩
          have callable := (callee_of_kind (restEq.trans (List.append_assoc _ _ _))
            ⟨shaped, frontFilled⟩).2 startsCall
          exact ⟨front ++ back, restEq, ⟨callable, shaped⟩, filled⟩
        · cases okEq
          exact ⟨[], rfl, rfl⟩

end Nested

theorem statsWithin {stat : Rule (Option Stat)} (nested : Reads stat Chosen) (bound : Nat) :
    Reads (statsWithin stat bound) (Spells Stat.AllShaped Stat.writtenAll) := by
  induction bound with
  | zero => exact pure ⟨trivial, .nil⟩
  | succ bound inductionHypothesis =>
      apply nested.bind
      intro found tokens chosen
      cases found with
      | none =>
          cases chosen
          exact pure ⟨trivial, .nil⟩
      | some first =>
          apply inductionHypothesis.bind
          intro rest more restSpells
          apply pure
          rw [List.append_nil]
          exact .cons chosen restSpells

theorem blockOf {stats : Rule Block}
    (nested : Reads stats (Spells Stat.AllShaped Stat.writtenAll)) :
    Reads (blockOf stats) (Spells Stat.AllShaped Stat.writtenAll) := by
  constructor
  intro cursor block after okEq
  rw [run_blockOf] at okEq
  split at okEq
  · rename_i statsEq
    rcases nested.account statsEq with ⟨tokens, restEq, spells⟩
    dsimp only at okEq
    split at okEq
    · cases okEq
    · cases okEq
      exact ⟨tokens, restEq, spells⟩
  · cases okEq

theorem blockWithin (bound : Nat) :
    Reads (blockWithin bound) (Spells Stat.AllShaped Stat.writtenAll) := by
  induction bound with
  | zero => exact blockOf (pure ⟨trivial, .nil⟩)
  | succ bound inductionHypothesis =>
      exact blockOf (statsWithin (statWith inductionHypothesis) _)

/-- The tokens that a block has been read from are a spelling of its statements. -/
theorem block : Reads Rule.block (Spells Stat.AllShaped Stat.writtenAll) :=
  bounded blockWithin

/-- The tokens that a statement has been read from are a spelling of it. -/
theorem stat : Reads Rule.stat Chosen :=
  statWith block

/-- The tokens that statements in a row have been read from are a spelling of them. -/
theorem stats : Reads Rule.stats (Spells Stat.AllShaped Stat.writtenAll) :=
  bounded (statsWithin stat)

end Reads

end Lunette.Rule
