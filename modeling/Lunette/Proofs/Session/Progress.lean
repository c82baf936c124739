import Lunette.Proofs.Indexed.Machine
import Lunette.Proofs.Session.Run

/-!
# Reading makes progress and ends

Whatever phrase is read, wherever a session stands and however many blocks are open, the reading
ends: the machine that calls the routine of the phrase stops after a number of steps, with the
answer of the session.  A phrase that is not empty takes up a token.  On the way no routine is
called at an index at which it has been called and has not returned, so every turn of the loop in
a block and every round of the recursion takes up a token too.
-/

namespace Lunette.Session

open Ast Indexed

/-! ## Phrases and routines -/

namespace Phrase

/-- What is read for a phrase that is not empty has at least one token. -/
theorem length_lt_of_rule {phrase : Phrase} {node : Node} {cursor after : Cursor}
    (notProgram : phrase ≠ .program) (notBlock : phrase ≠ .block)
    (ruleEq : phrase.rule.run cursor = .ok (some node) after) :
    after.rest.length < cursor.rest.length := by
  have always {consuming : Rule (Option Node)} (consumes : consuming.Consumes)
      (okEq : consuming.run cursor = .ok (some node) after) :
      after.rest.length < cursor.rest.length := consumes.length_lt okEq
  cases phrase with
  | program => exact absurd rfl notProgram
  | block => exact absurd rfl notBlock
  | stat =>
      rw [rule, Rule.run_bind] at ruleEq
      split at ruleEq
      · rename_i found between statEq
        cases found with
        | some stat =>
            cases ruleEq
            exact Rule.length_lt_of_statWith .block statEq
        | none => cases ruleEq
      · cases ruleEq
  | declaration => exact always (.bind_left .declaration fun _ => .pure _) ruleEq
  | conditional => exact always (.bind_left (.conditionalWith .block) fun _ => .pure _) ruleEq
  | assignment => exact always (.bind_left .assignment fun _ => .pure _) ruleEq
  | callStatement => exact always (.bind_left .callStatement fun _ => .pure _) ruleEq
  | name => exact always (.bind_left .name fun _ => .pure _) ruleEq
  | exp | binary => exact always (.bind_left .exp fun _ => .pure _) ruleEq
  | unary => exact always (.bind_left (.unaryWith .exp) fun _ => .pure _) ruleEq
  | call => exact always (.bind_left (.callWith .exp) fun _ => .pure _) ruleEq
  | primary => exact always (.bind_left (.primaryWith .exp) fun _ => .pure _) ruleEq
  | args => exact always (.bind_left (.argsWith .exp) fun _ => .pure _) ruleEq

end Phrase

/-! ## Sessions and machines -/

/-- The machine that reads a phrase where the session reads it. -/
def machine (session : Session) (phrase : Phrase) : Machine phrase.routine :=
  .start session.tokens.toList phrase.routine (session.startOf phrase).place

/-- The machine has ended, and the session answers what the machine has returned. -/
inductive Ends (session : Session) (phrase : Phrase) : Machine phrase.routine → Prop
  | returned {value : phrase.routine.Value} {after : Session}
      (answered : session.answer (.read phrase) = (.ok (phrase.reply value), after)) :
      Ends session phrase (.ended (.ok value) after.place)
  | raised {error : ParseError} {after : Session}
      (answered : session.answer (.read phrase) = (.error (.parse error), after)) :
      Ends session phrase (.ended (.error (.parse error)) after.place)

variable {session : Session} {phrase : Phrase}

/-- The machine that has ended as the rule does has ended with the answer of the session. -/
theorem ends_finish (session : Session) (phrase : Phrase) :
    session.Ends phrase (Waiting.nobody.finish (answerOf session.tokens
      (phrase.routine.rule.run (session.startOf phrase).cursor))) := by
  have answerEq := (session.answer_read phrase).trans (congrArg _ phrase.rule_reply)
  rw [run, Rule.run_bind] at answerEq
  rw [← session.tokens_startOf phrase]
  cases ruleEq : phrase.routine.rule.run (session.startOf phrase).cursor with
  | ok value cursor =>
      rw [ruleEq] at answerEq
      exact .returned answerEq
  | error error cursor =>
      rw [ruleEq] at answerEq
      exact .raised answerEq

/-- The reading of a phrase makes progress and ends. -/
structure Progresses (session : Session) (phrase : Phrase) : Prop where
  /-- After a number of steps the routine has returned or failed, as the session answers. -/
  ends : ∃ count, session.Ends phrase
    ((session.machine phrase).after session.tokens.toList count)
  /-- Where a phrase that is not empty is found, the session has moved forward. -/
  advances : phrase ≠ .program → phrase ≠ .block → ∀ node after,
    session.answer (.read phrase) = (.ok (.node node), after) → session.position < after.position
  /-- A routine that is called again before it has returned is called further on.  The turns of
  the loop in a block are such calls. -/
  consumes : ∀ count,
    ((session.machine phrase).after session.tokens.toList count).activations.Pairwise
      fun inner outer => inner.routine = outer.routine → outer.entry < inner.entry

/-- From every place of a session every phrase is read with progress, and the reading ends. -/
theorem progresses_of_inRange (inRange : session.InRange) (phrase : Phrase) :
    session.Progresses phrase := by
  have startInRange := inRange_startOf inRange phrase
  have leads := Machine.leads_start phrase.routine (session.startOf phrase).stands_cursor
  rw [positionOf_cursor startInRange, tokens_startOf] at leads
  have ends := session.ends_finish phrase
  constructor
  case ends =>
    obtain ⟨count, afterEq⟩ := leads.exists_after_eq
    exact ⟨count, (show (session.machine phrase).after _ count = _ from afterEq) ▸ ends⟩
  case advances =>
    -- Only a program is read from another place than the one where the session stands.
    intro notProgram notBlock node after answered
    obtain ⟨cursor, ruleEq, rfl⟩ := answer_read_eq_ok answered
    have startEq : session.startOf phrase = session := startOf_eq notProgram
    rw [startEq] at ruleEq ⊢
    have fewer := Phrase.length_lt_of_rule notProgram notBlock ruleEq
    have later := session.stands_cursor.index_lt fewer
    rwa [positionOf_cursor inRange] at later
  case consumes =>
    intro count
    have nested := leads.nested_after (Machine.next_finish _ _) count
    exact nested.imp fun inside same => inside.entry_lt same

/-- A session in front of a conditional statement that holds another one, inside a block. -/
def beforeNested : Session where
  tokens :=
    { body :=
        [⟨.ifWord, "if".toList, ⟨0, 1, 1⟩⟩, ⟨.identifier, "x".toList, ⟨3, 1, 4⟩⟩,
         ⟨.thenWord, "then".toList, ⟨5, 1, 6⟩⟩, ⟨.ifWord, "if".toList, ⟨10, 1, 11⟩⟩,
         ⟨.minus, "-".toList, ⟨13, 1, 14⟩⟩, ⟨.openParen, "(".toList, ⟨14, 1, 15⟩⟩,
         ⟨.identifier, "y".toList, ⟨15, 1, 16⟩⟩, ⟨.closeParen, ")".toList, ⟨16, 1, 17⟩⟩,
         ⟨.thenWord, "then".toList, ⟨18, 1, 19⟩⟩, ⟨.endWord, "end".toList, ⟨23, 1, 24⟩⟩,
         ⟨.semicolon, ";".toList, ⟨26, 1, 27⟩⟩, ⟨.endWord, "end".toList, ⟨28, 1, 29⟩⟩,
         ⟨.semicolon, ";".toList, ⟨31, 1, 32⟩⟩]
      marker := ⟨.endOfInput, [], ⟨32, 1, 33⟩⟩
      body_kind_ne := by decide
      marker_kind := rfl }
  position := 0
  depth := 1

/-- Inside the inner conditional statement the routine for statements is at work for the third
time. -/
theorem progresses_beforeNested :
    beforeNested.InRange ∧ beforeNested.Progresses .stat ∧
      (((beforeNested.machine .stat).after beforeNested.tokens.toList 68).activations.filter
        (·.routine = .stat)).map Activation.entry = [9, 3, 0] ∧
      ((beforeNested.machine .stat).after beforeNested.tokens.toList 97).activations = [] :=
  ⟨Nat.zero_le _, progresses_of_inRange (Nat.zero_le _) .stat, rfl, rfl⟩

end Lunette.Session
