import Lunette.Proofs.Session.Index

/-!
# A session stays within its tokens

Requests may come in any order, make no sense where the session stands, and fail.  Whatever
has been asked for before, a session stands at one of its tokens; it moves forward, and a
request that succeeds leaves as many blocks open as there were, so a block is never closed
that is not open.  Only a program starts from the first token again, and what it is read as
does not depend on what came before.  All this is so as well where the tokens are looked up by
index, and there no index lies outside the list unless a request asks for it.
-/

namespace Lunette

open Ast

namespace ClosedTokens

/-- The token at a cursor is the one at the index from which its tokens are left. -/
theorem getElem?_toList {tokens : ClosedTokens} {position : Nat}
    (inRange : position ≤ tokens.body.length) :
    tokens.toList[position]? = some ((tokens.body.drop position).headD tokens.marker) := by
  rw [toList, ← List.head?_drop, List.drop_append_of_le_length inRange]
  cases tokens.body.drop position <;> rfl

end ClosedTokens

namespace Session

/-! ## Answers in a row -/

/-- The session after the requests. -/
def past (session : Session) (requests : List Request) : Session :=
  requests.foldl (fun before request => (before.answer request).2) session

theorem past_concat (session : Session) (done : List Request) (request : Request) :
    session.past (done ++ [request]) = ((session.past done).answer request).2 := by
  rw [past, List.foldl_append]
  rfl

/-- The answer to a request is the one of the session after the requests before it. -/
theorem getElem?_answers (session : Session) (done rest : List Request) (request : Request) :
    (session.answers (done ++ request :: rest))[done.length]? =
      some ((session.past done).answer request) := by
  induction done generalizing session with
  | nil => rfl
  | cons first done inductionHypothesis => exact inductionHypothesis (session.answer first).2

/-! ## What an answer does to a session -/

/-- The session has moved forward among its tokens.  No block is closed that was open before,
and what succeeds closes the blocks that it has opened. -/
structure MovedOn (before : Session) (reply : Except Fault Reply) (after : Session) : Prop where
  forward : before.position ≤ after.position
  opened : before.depth ≤ after.depth
  balanced : ∀ value, reply = .ok value → after.depth = before.depth

/-- The session has read its tokens as a program, from the first one on. -/
structure Restarted (before : Session) (reply : Except Fault Reply) (after : Session) :
    Prop where
  /-- The answer is that of a session that has not been asked for anything. -/
  fresh : (reply, after) = (start before.tokens).answer (.read .program)
  /-- The program is the one that the tokens are read as. -/
  program : ∀ program, reply = .ok (.node (.root program)) ↔
    Program.ofTokens before.tokens.toList = .ok program
  /-- The error is the one with which the tokens are refused. -/
  refusal : ∀ error, reply = .error (.parse error) ↔
    Program.ofTokens before.tokens.toList = .error (.parse error)
  /-- A program that is read ends at the end marker, with no block open. -/
  whole : ∀ value, reply = .ok value →
    after.position = before.tokens.body.length ∧ after.depth = 0

/-- A request may fail: looking in front of the first token, and reading tokens that do not
follow the rule that is asked for. -/
inductive MayFail (session : Session) : Request → Fault → Prop
  | peek {offset : Int} (fault : PeekFault)
      (inFront : session.position + offset < -session.tokens.size) :
      MayFail session (.peek offset) (.peek fault)
  | expect {kind : Kind} {message : Text} (error : ParseError) :
      MayFail session (.expect kind message) (.parse error)
  | read {phrase : Phrase} (error : ParseError) : MayFail session (.read phrase) (.parse error)

/-- What holds of the answer to a request, and of the session with which it comes. -/
structure Lawful (before : Session) (request : Request) (reply : Except Fault Reply)
    (after : Session) : Prop where
  /-- The tokens are the same ones. -/
  tokens : after.tokens = before.tokens
  /-- The session stands at one of its tokens. -/
  inRange : after.position < after.tokens.size
  /-- The token that is seen there is the one with the index. -/
  seen : after.tokens.toList[after.position]? = some after.cursor.current
  /-- The request fails only as it may. -/
  fault : ∀ fault, reply = .error fault → MayFail before request fault
  /-- Only a program starts from the first token again. -/
  movedOn : request ≠ .read .program → MovedOn before reply after
  /-- A program does not depend on what came before. -/
  restarted : request = .read .program → Restarted before reply after

/-! ## Single requests -/

theorem Lawful.of_inRange {before after : Session} {request : Request}
    {reply : Except Fault Reply} (tokens : after.tokens = before.tokens)
    (inRange : after.InRange)
    (fault : ∀ fault, reply = .error fault → MayFail before request fault)
    (movedOn : request ≠ .read .program → MovedOn before reply after)
    (restarted : request = .read .program → Restarted before reply after) :
    Lawful before request reply after where
  tokens := tokens
  inRange := Nat.lt_succ_of_le inRange
  seen := ClosedTokens.getElem?_toList inRange
  fault := fault
  movedOn := movedOn
  restarted := restarted

/-- A session that only looks stays where it is. -/
theorem Lawful.of_stay {session : Session} {request : Request} {reply : Except Fault Reply}
    (inRange : session.InRange) (notProgram : request ≠ .read .program)
    (fault : ∀ fault, reply = .error fault → MayFail session request fault) :
    Lawful session request reply session :=
  .of_inRange rfl inRange fault
    (fun _ => ⟨Nat.le_refl _, Nat.le_refl _, fun _ _ => rfl⟩)
    (fun isProgram => absurd isProgram notProgram)

theorem Lawful.of_look {session : Session} {request : Request} (inRange : session.InRange)
    (notProgram : request ≠ .read .program) (value : Reply) :
    Lawful session request (.ok value) session :=
  .of_stay inRange notProgram (by rintro _ ⟨⟩)

theorem inRange_run {α : Type} (session : Session) (rule : Rule α) :
    (session.run rule).2.tokens = session.tokens ∧ (session.run rule).2.InRange := by
  unfold run
  split <;> exact ⟨rfl, Nat.sub_le _ _⟩

/-- A rule that moves forward moves the session on. -/
theorem movedOn_run {session : Session} {rule : Rule Reply} (inRange : session.InRange)
    (forward : rule.Forward) : MovedOn session (session.run rule).1 (session.run rule).2 := by
  have position_le : ∀ cursor : Cursor, cursor.rest <:+ session.cursor.rest →
      session.position ≤ session.tokens.body.length - cursor.rest.length := by
    intro cursor suffix
    have length_le : cursor.rest.length ≤ session.tokens.body.length - session.position :=
      List.length_drop (l := session.tokens.body) ▸ suffix.length_le
    unfold InRange at inRange
    omega
  unfold run
  split
  · rename_i value cursor okEq
    obtain ⟨suffix, -, depthEq⟩ := forward.ok okEq
    exact ⟨position_le cursor suffix, Nat.le_of_eq depthEq.symm, fun _ _ => depthEq⟩
  · rename_i error cursor errorEq
    obtain ⟨suffix, -, depth_le⟩ := forward.error errorEq
    exact ⟨position_le cursor suffix, depth_le, nofun⟩

/-- A session that runs a rule moves on. -/
theorem Lawful.of_run {session : Session} {request : Request} {rule : Rule Reply}
    (inRange : session.InRange) (notProgram : request ≠ .read .program)
    (forward : rule.Forward)
    (fault : ∀ fault, (session.run rule).1 = .error fault → MayFail session request fault) :
    Lawful session request (session.run rule).1 (session.run rule).2 :=
  .of_inRange (session.inRange_run rule).1 (session.inRange_run rule).2 fault
    (fun _ => movedOn_run inRange forward) (fun isProgram => absurd isProgram notProgram)

/-- Running a rule fails only as the tokens do not follow it. -/
theorem exists_of_run_eq_error {α : Type} {session : Session} {rule : Rule α} {fault : Fault}
    (errorEq : (session.run rule).1 = .error fault) :
    ∃ error cursor, fault = .parse error ∧ rule.run session.cursor = .error error cursor := by
  unfold run at errorEq
  split at errorEq
  · cases errorEq
  · rename_i error cursor ruleEq
    cases errorEq
    exact ⟨error, cursor, rfl, ruleEq⟩

/-- Looking fails only in front of the first token. -/
theorem lt_of_peek_eq_error {session : Session} {offset : Int} {fault : PeekFault}
    (unseen : session.peek offset = .error fault) :
    session.position + offset < -session.tokens.size := by
  have length_eq := session.tokens.length_toList
  by_contra notBelow
  have outside : ∀ index : Int, 0 ≤ index → index < session.tokens.size →
      session.tokens.toList[index.toNat]? ≠ none := by
    intro index notNegative below isNone
    have beyond := List.getElem?_eq_none_iff.mp isNone
    omega
  have sizePos : 0 < session.tokens.size := Nat.succ_pos _
  unfold peek at unseen
  dsimp only at unseen
  split at unseen
  · cases unseen
  · rename_i isNone
    split_ifs at isNone <;> first | omega | exact outside _ (by omega) (by omega) isNone

/-- The rule of every phrase moves forward. -/
theorem Phrase.forward_rule (phrase : Phrase) : phrase.rule.Forward := by
  cases phrase with
  | program | block => exact .bind .block fun _ => .pure _
  | stat => exact .bind .stat fun _ => .pure _
  | declaration => exact .bind .declaration fun _ => .pure _
  | conditional => exact .bind (.conditionalWith .block) fun _ => .pure _
  | assignment => exact .bind .assignment fun _ => .pure _
  | callStatement => exact .bind .callStatement fun _ => .pure _
  | name => exact .bind .name fun _ => .pure _
  | exp | binary => exact .bind .exp fun _ => .pure _
  | unary => exact .bind (.unaryWith .exp) fun _ => .pure _
  | call => exact .bind (.callWith .exp) fun _ => .pure _
  | primary => exact .bind (.primaryWith .exp) fun _ => .pure _
  | args => exact .bind (.argsWith .exp) fun _ => .pure _

theorem answer_program_of_ok {session : Session} {program : Program} {cursor : Cursor}
    (readEq : Program.read session.tokens = .ok program cursor) :
    session.answer (.read .program) =
      (.ok (.node (.root program)), (start session.tokens).moveTo cursor) := by
  have blockEq := Program.read_eq_ok_iff_block.mp readEq
  have ruleEq : Phrase.program.rule.run (session.startOf .program).cursor =
      .ok (some (.root program)) cursor := by
    change (Rule.block >>= fun block => pure (some (Node.root ⟨block⟩))).run
      session.tokens.start = _
    rw [Rule.run_bind, blockEq]
    rfl
  rw [answer_read, run, Rule.run_bind, ruleEq]
  rfl

theorem answer_program_of_error {session : Session} {error : ParseError} {cursor : Cursor}
    (readEq : Program.read session.tokens = .error error cursor) :
    session.answer (.read .program) =
      (.error (.parse error), (start session.tokens).moveTo cursor) := by
  have blockEq := Program.read_eq_error_iff_block.mp readEq
  have ruleEq : Phrase.program.rule.run (session.startOf .program).cursor =
      .error error cursor := by
    change (Rule.block >>= fun block => pure (some (Node.root ⟨block⟩))).run
      session.tokens.start = _
    rw [Rule.run_bind, blockEq]
  rw [answer_read, run, Rule.run_bind, ruleEq]
  rfl

theorem restarted_answer (session : Session) :
    Restarted session (session.answer (.read .program)).1 (session.answer (.read .program)).2 := by
  cases readEq : Program.read session.tokens with
  | ok found cursor =>
      have answerEq := answer_program_of_ok readEq
      have freshEq := @answer_program_of_ok (start session.tokens) found cursor readEq
      have cursorEq := (Program.read_eq_ok_iff.mp readEq).2
      have ofTokensEq : Program.ofTokens session.tokens.toList = .ok found := by
        rw [Program.ofTokens, ClosedTokens.ofList?_toList]
        dsimp only
        rw [readEq]
      refine ⟨answerEq.trans freshEq.symm, ?_, ?_, ?_⟩
      · intro program
        rw [ofTokensEq, answerEq]
        simp
      · intro error
        rw [ofTokensEq, answerEq]
        simp
      · intro value _
        rw [answerEq, cursorEq]
        exact ⟨rfl, rfl⟩
  | error found cursor =>
      have answerEq := answer_program_of_error readEq
      have freshEq := @answer_program_of_error (start session.tokens) found cursor readEq
      have ofTokensEq : Program.ofTokens session.tokens.toList = .error (.parse found) := by
        rw [Program.ofTokens, ClosedTokens.ofList?_toList]
        dsimp only
        rw [readEq]
      refine ⟨answerEq.trans freshEq.symm, ?_, ?_, ?_⟩
      · intro program
        rw [ofTokensEq, answerEq]
        simp
      · intro error
        rw [ofTokensEq, answerEq]
        simp
      · intro value valueEq
        rw [answerEq] at valueEq
        cases valueEq

/-- Every answer of a session that stands at one of its tokens is lawful. -/
theorem lawful_answer {session : Session} (inRange : session.InRange) (request : Request) :
    Lawful session request (session.answer request).1 (session.answer request).2 := by
  cases request with
  | current => exact .of_look inRange (by simp) _
  | peek offset =>
      cases seenEq : session.peek offset with
      | ok token =>
          have answerEq : session.answer (.peek offset) = (.ok (.token token), session) := by
            unfold answer
            dsimp only
            rw [seenEq]
          rw [answerEq]
          exact .of_look inRange (by simp) _
      | error fault =>
          have answerEq : session.answer (.peek offset) = (.error (.peek fault), session) := by
            unfold answer
            dsimp only
            rw [seenEq]
          rw [answerEq]
          refine .of_stay inRange (by simp) ?_
          rintro _ ⟨⟩
          exact .peek fault (lt_of_peek_eq_error seenEq)
  | advance =>
      refine .of_run inRange (by simp) (.map _ .advance) ?_
      intro fault errorEq
      obtain ⟨error, cursor, -, ruleEq⟩ := exists_of_run_eq_error errorEq
      cases ruleEq
  | check kinds => exact .of_look inRange (by simp) _
  | accept kinds =>
      refine .of_run inRange (by simp) (.bind (.accept _) fun found => ?_) ?_
      · cases found <;> exact .pure _
      · intro fault errorEq
        obtain ⟨error, cursor, -, ruleEq⟩ := exists_of_run_eq_error errorEq
        rw [Rule.run_bind, Rule.run_accept] at ruleEq
        split_ifs at ruleEq <;> cases ruleEq
  | expect kind message =>
      refine .of_run inRange (by simp) (.map _ (.expect _ _)) ?_
      intro fault errorEq
      obtain ⟨error, cursor, rfl, -⟩ := exists_of_run_eq_error errorEq
      exact .expect error
  | read phrase =>
      have fault : ∀ fault, (session.answer (.read phrase)).1 = .error fault →
          MayFail session (.read phrase) fault := by
        intro fault errorEq
        obtain ⟨error, cursor, rfl, -⟩ := exists_of_run_eq_error errorEq
        exact .read error
      -- Only a program is read from another place than the one where the session stands.
      by_cases isProgram : phrase = .program
      · cases isProgram
        refine .of_inRange ?_ ?_ fault (fun notProgram => absurd rfl notProgram)
          fun _ => session.restarted_answer
        · exact (inRange_run (start session.tokens) _).1
        · exact (inRange_run (start session.tokens) _).2
      · have notProgram : Request.read phrase ≠ .read .program := fun same =>
          isProgram (Request.read.inj same)
        have startEq : session.startOf phrase = session := by
          cases phrase <;> first | rfl | exact absurd rfl isProgram
        rw [answer_read, startEq] at fault ⊢
        refine .of_run inRange notProgram (.bind phrase.forward_rule fun found => ?_) fault
        cases found <;> exact .pure _

/-! ## Requests in a row -/

/-- Whatever a session is asked for, it stands at one of its tokens afterwards. -/
theorem inRange_past {session : Session} (inRange : session.InRange) (requests : List Request) :
    (session.past requests).tokens = session.tokens ∧ (session.past requests).InRange := by
  induction requests generalizing session with
  | nil => exact ⟨rfl, inRange⟩
  | cons request rest inductionHypothesis =>
      have lawful := lawful_answer inRange request
      have behind := inductionHypothesis (Nat.le_of_lt_succ lawful.inRange)
      exact ⟨behind.1.trans lawful.tokens, behind.2⟩

/-- In a session that is asked for anything in any order, each answer is lawful.  The steps that do
the same by index, from the place that the session has reached, come to this answer, so they look
for a token where there is none only if the session does. -/
theorem lawful_answers (tokens : ClosedTokens) (done rest : List Request) (request : Request) :
    ∃ reply after,
      ((start tokens).answers (done ++ request :: rest))[done.length]? = some (reply, after) ∧
        after = (start tokens).past (done ++ [request]) ∧ after.tokens = tokens ∧
        Lawful ((start tokens).past done) request reply after ∧
        (request.steps tokens.toList).run ((start tokens).past done).place =
          some (reply.mapError Fault.byIndex, after.place) := by
  obtain ⟨tokensEq, inRange⟩ := @inRange_past (start tokens) (Nat.zero_le _) done
  have lawful := lawful_answer inRange request
  have stepsEq := run_steps inRange request
  rw [tokensEq, start] at stepsEq
  exact ⟨_, _, getElem?_answers _ done rest request, (past_concat _ done request).symm,
    lawful.tokens.trans tokensEq, lawful, stepsEq⟩

end Session

end Lunette
