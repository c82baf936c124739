import Lunette.Indexed.Request
import Lunette.Proofs.Indexed.Routine
import Lunette.Proofs.Session.Account

/-!
# Sessions answer by index

A session that stands at one of its tokens has an index there.  Whatever it is asked for, the
steps that do the same by index come to the reply of the session, at the place to which the session
moves.  They look for a token where there is none only if the session does: in front of the first
token, when it is asked to.
-/

namespace Lunette.Session

open Ast Indexed

/-- The session stands at one of its tokens. -/
def InRange (session : Session) : Prop :=
  session.position ≤ session.tokens.body.length

/-- The rule of a phrase reads what the rule of its routine reads. -/
theorem Phrase.rule_reply (phrase : Phrase) :
    (do
      match ← phrase.rule with
      | some node => return .node node
      | none => return .nothing : Rule Reply) =
      phrase.routine.rule >>= fun value => pure (phrase.reply value) := by
  cases phrase with
  | stat =>
      simp only [rule, bind_assoc, pure_bind]
      congr 1
      funext found
      cases found <;> rfl
  | _ =>
      simp only [rule, bind_assoc, pure_bind]
      rfl

variable {session : Session} {α : Type}

/-! ## Places and cursors -/

theorem inRange_startOf (inRange : session.InRange) (phrase : Phrase) :
    (session.startOf phrase).InRange := by
  cases phrase <;> first | exact inRange | exact Nat.zero_le _

theorem startOf_eq (notProgram : phrase ≠ .program) : session.startOf phrase = session := by
  cases phrase <;> first | rfl | exact absurd rfl notProgram

theorem tokens_startOf (session : Session) (phrase : Phrase) :
    (session.startOf phrase).tokens = session.tokens := by
  cases phrase <;> rfl

theorem stands_cursor (session : Session) : Stands session.tokens session.cursor :=
  stands_cursorAt session.tokens session.place

theorem positionOf_cursor (inRange : session.InRange) :
    positionOf session.tokens session.cursor = session.place :=
  @positionOf_cursorAt session.tokens session.place inRange

/-! ## Requests by index -/

/-- Steps that mirror a rule come to the answer of a session that runs the rule. -/
theorem run_of_mirrors {rule : Rule α} {steps : Parsing α} (inRange : session.InRange)
    (mirrors : Mirrors session.tokens rule steps) :
    steps.run session.place =
      some ((session.run rule).1.mapError Fault.byIndex, (session.run rule).2.place) := by
  have runEq := mirrors.run session.stands_cursor
  rw [positionOf_cursor inRange] at runEq
  rw [runEq, run]
  cases rule.run session.cursor <;> rfl

/-- An index in front of the list is a fault, and so is one behind it. -/
theorem run_tokenAt (tokens : List Token) (fromFront : Int) (fault : PeekFault)
    (place : Position) :
    (if fromFront < 0 then throw .outOfRange
      else Parsing.tokenAt tokens fromFront.toNat).run place =
      some ((match if fromFront < 0 then none else tokens[fromFront.toNat]? with
        | some token => .ok token
        | none => .error fault : Except PeekFault Token).mapError fun fault =>
          Fault.byIndex (.peek fault), place) := by
  by_cases inFront : fromFront < 0
  · rw [if_pos inFront, if_pos inFront]
    rfl
  · rw [if_neg inFront, if_neg inFront]
    unfold Parsing.tokenAt
    cases tokens[fromFront.toNat]? <;> rfl

/-- Looking by an offset is the same by index. -/
theorem run_peek (session : Session) (offset : Int) :
    (Parsing.peek session.tokens.toList offset).run session.place =
      some ((session.peek offset).mapError fun fault => Fault.byIndex (.peek fault),
        session.place) := by
  rw [Parsing.peek, Steps.run_bind_of_ok (Steps.run_get _), ClosedTokens.length_toList]
  exact run_tokenAt _ _ _ _

theorem run_current (inRange : session.InRange) :
    (Parsing.current session.tokens.toList).run session.place =
      some (.ok session.cursor.current, session.place) := by
  have currentEq := Parsing.run_current session.stands_cursor
  rwa [positionOf_cursor inRange] at currentEq

theorem run_check (inRange : session.InRange) (wanted : Kind → Bool) :
    (Parsing.check session.tokens.toList wanted).run session.place =
      some (.ok (wanted session.cursor.kind), session.place) := by
  have checkEq := Parsing.run_check session.stands_cursor wanted
  rwa [positionOf_cursor inRange] at checkEq

/-- A phrase is read by its routine from where the session stands as it is read by its rule. -/
theorem mirrors_steps (tokens : ClosedTokens) (phrase : Phrase) :
    Mirrors tokens
      (do
        match ← phrase.rule with
        | some node => return .node node
        | none => return .nothing)
      (phrase.steps tokens.toList) := by
  rw [phrase.rule_reply]
  exact .bind (.within phrase.routine) fun _ => .pure _

/-- Asked for anything, a session that stands at one of its tokens answers as the steps by index
do. -/
theorem run_steps (inRange : session.InRange) (request : Request) :
    (request.steps session.tokens.toList).run session.place =
      some ((session.answer request).1.mapError Fault.byIndex,
        (session.answer request).2.place) := by
  cases request with
  | current =>
      rw [Request.steps, Steps.run_bind_of_ok (run_current inRange)]
      rfl
  | peek offset =>
      rw [Request.steps, Steps.run_bind, run_peek]
      unfold answer
      dsimp only
      cases session.peek offset <;> rfl
  | advance => exact run_of_mirrors inRange (.map _ .advance)
  | check kinds =>
      rw [Request.steps, Steps.run_bind_of_ok (run_check inRange _)]
      rfl
  | accept kinds =>
      refine run_of_mirrors inRange (.bind (.accept _) fun found => ?_)
      cases found <;> exact .pure _
  | expect kind message => exact run_of_mirrors inRange (.map _ (.expect _ _))
  | read phrase =>
      have readEq := run_of_mirrors (inRange_startOf inRange phrase) (mirrors_steps _ phrase)
      rw [tokens_startOf] at readEq
      -- Only a program is read from another place than the one where the session stands.
      cases phrase <;> exact readEq

end Lunette.Session
