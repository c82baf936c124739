import Lunette.Proofs.Grammar.Viable
import Lunette.Proofs.Reading.Demand.Statement
import Lunette.Proofs.Reading.Lookahead.Statement
import Lunette.Proofs.Session.Account

/-!
# Errors are reported where they arise

A program that cannot be read is reported at its first wrong token: what stands in front of
the token can be the beginning of a program, and with the token it cannot.  The report comes
one token early in one case only, where an assignment sign follows and the token is no name.
A token that is said to be expected can in fact stand there.
-/

namespace Lunette

open Ast Grammar

namespace Cursor

theorem kind_current {cursor : Cursor} (isMarker : cursor.marker.kind = .endOfInput) :
    cursor.current.kind = cursor.kind := by
  rcases cursor with ⟨_ | ⟨token, rest⟩, marker, depth⟩
  · exact isMarker
  · rfl

/-- What is left, the marker included, are the token at the cursor and the tokens behind it. -/
theorem exists_behind (cursor : Cursor) :
    ∃ behind, cursor.rest ++ [cursor.marker] = cursor.current :: behind ∧
      (cursor.nextKind = .assign → ∃ sign back, behind = sign :: back ∧ sign.kind = .assign) := by
  rcases cursor with ⟨_ | ⟨token, _ | ⟨next, rest⟩⟩, marker, depth⟩
  · exact ⟨[], rfl, nofun⟩
  · exact ⟨[marker], rfl, nofun⟩
  · exact ⟨next :: (rest ++ [marker]), rfl, fun isAssign => ⟨next, _, rfl, isAssign⟩⟩

end Cursor

namespace Rule

/-- What is left unread does not turn into a program by what is put in its place, as long as it
looks the same. -/
theorem not_sentence_of_alike {after other : Cursor} {read : List Token} {error : ParseError}
    (errorEq : block.run (after.source read 0) = .error error after)
    (alike : after.Alike other) : ¬ Sentence ((read ++ other.rest).map Token.kind) := by
  intro sentence
  obtain ⟨program, spells⟩ := sentence_iff_exists_spells.mp sentence
  have fails : block.run (other.source read 0) = .error error other :=
    Local.block.same alike (show _ = stop (.error error) after from errorEq)
  have ends : EndsBlock ⟨[], other.marker, 0⟩ := endsBlock_of_nil rfl
  have recovers := Recovers.block spells.shaped spells.filled ends fun _ => rfl
  rw [Recovers, Cursor.before, List.append_nil] at recovers
  cases fails.symm.trans recovers

/-- If what has been read can go on with the token at which the reading has failed, an
assignment sign follows it, and the token is no name. -/
theorem nextKind_of_viable {after : Cursor} {read : List Token} {error : ParseError}
    (errorEq : block.run (after.source read 0) = .error error after)
    (atEnd : after.kind = .endOfInput → after.rest = [])
    (viable : Viable (read.map Token.kind ++ [after.kind])) :
    after.kind ≠ .identifier ∧ after.nextKind = .assign := by
  by_cases isEnd : after.kind = .endOfInput
  · have restNil := atEnd isEnd
    rw [isEnd] at viable
    have sentence := viable.sentence
    rw [← List.append_nil read, ← restNil] at sentence
    have itself : after.Alike after := ⟨rfl, rfl, rfl, fun _ => Iff.rfl⟩
    exact absurd sentence (not_sentence_of_alike errorEq itself)
  · obtain ⟨more, sentence⟩ := viable.exists_sentence isEnd
    obtain ⟨others, rfl⟩ := exists_map_kind_eq more
    rcases after with ⟨_ | ⟨token, rest⟩, marker, depth⟩
    · exact absurd rfl isEnd
    · by_contra notEarly
      have alike :
          Cursor.Alike ⟨token :: rest, marker, depth⟩ ⟨token :: others, marker, depth⟩ := by
        refine ⟨rfl, rfl, rfl, fun notName => ?_⟩
        constructor
        · intro isAssign
          exact absurd ⟨notName, isAssign⟩ notEarly
        · intro isAssign
          cases others with
          | nil => cases isAssign
          | cons sign others =>
              have signKind : sign.kind = .assign := isAssign
              rw [List.map_cons, signKind] at sentence
              exact absurd sentence.assignsToNames.kind_eq notName
      apply not_sentence_of_alike errorEq alike
      rw [List.map_append]
      exact sentence

end Rule

namespace Session

/-- An error points at the token with the index. -/
structure Pinpoints (tokens : ClosedTokens) (index : Nat) (error : ParseError) : Prop where
  /-- The token is the reported one. -/
  found : tokens.toList[index]? = some error.found
  /-- The tokens in front of it can begin a program. -/
  viable : Viable ((tokens.toList.take index).map Token.kind)
  /-- The tokens up to it cannot, unless it is no name and an assignment sign follows; then
  the tokens up to the sign cannot. -/
  stuck : ¬ Viable ((tokens.toList.take (index + 1)).map Token.kind) ∨
    tokens.toList[index + 1]?.map Token.kind = some .assign ∧ error.found.kind ≠ .identifier ∧
      ¬ Viable ((tokens.toList.take (index + 2)).map Token.kind)
  /-- A token of the kind that is said to be expected can stand in its place. -/
  hint : ∀ expected purpose found, error = .expectedToken expected purpose found →
    Viable ((tokens.toList.take index).map Token.kind ++ [expected])

variable {tokens : ClosedTokens} {error : ParseError}

theorem answer_read_eq_error {session after : Session} {phrase : Phrase}
    (answered : session.answer (.read phrase) = (.error (.parse error), after)) :
    ∃ cursor, phrase.rule.run (session.startOf phrase).cursor = .error error cursor ∧
      after = (session.startOf phrase).moveTo cursor := by
  rw [answer_read, run, Rule.run_bind] at answered
  cases ruleEq : phrase.rule.run (session.startOf phrase).cursor with
  | error found cursor =>
      rw [ruleEq] at answered
      cases answered
      exact ⟨cursor, rfl, rfl⟩
  | ok found cursor =>
      rw [ruleEq] at answered
      cases found <;> cases answered

/-- A program is asked for from the first token on. -/
theorem block_of_program_eq_error {cursor : Cursor}
    (ruleEq : Phrase.program.rule.run (start tokens).cursor = .error error cursor) :
    Rule.block.run tokens.start = .error error cursor := by
  change (Rule.block >>= fun block => pure (some (Node.root ⟨block⟩))).run tokens.start = _
    at ruleEq
  rw [Rule.run_bind] at ruleEq
  cases blockEq : Rule.block.run tokens.start with
  | error found between =>
      rw [blockEq] at ruleEq
      cases ruleEq
      rfl
  | ok block between =>
      rw [blockEq] at ruleEq
      cases ruleEq

/-- With an assignment sign behind a token that is no name, no program goes on. -/
theorem early_of_assign {read back : List Token} {found sign : Token}
    (listEq : tokens.toList = read ++ found :: sign :: back) (notName : found.kind ≠ .identifier)
    (isAssign : sign.kind = .assign) :
    tokens.toList[read.length + 1]?.map Token.kind = some .assign ∧
      ¬ Viable ((tokens.toList.take (read.length + 2)).map Token.kind) := by
  have atSign : tokens.toList[read.length + 1]? = some sign := by
    rw [listEq, List.getElem?_append_right (Nat.le_add_right _ 1),
      Nat.add_sub_cancel_left]
    rfl
  have takeSign : tokens.toList.take (read.length + 2) = read ++ [found, sign] := by
    rw [listEq, show read ++ found :: sign :: back = (read ++ [found, sign]) ++ back by simp]
    exact List.take_left' (by simp)
  constructor
  · rw [atSign, Option.map_some, isAssign]
  · rw [takeSign, List.map_append, List.map_cons, List.map_singleton, isAssign]
    exact not_viable_of_assign notName

/-- An error points at the token at which the reading has stopped. -/
theorem pinpoints_of_error {read : List Token} {after : Cursor}
    (errorEq : Rule.block.run tokens.start = .error error after)
    (bodyEq : tokens.body = read ++ after.rest) : Pinpoints tokens read.length error := by
  have forward := Rule.Forward.block.error errorEq
  have markerEq : after.marker = tokens.marker := forward.2.1
  have isMarker : after.marker.kind = .endOfInput := markerEq ▸ tokens.marker_kind
  have kindEq := Cursor.kind_current isMarker
  have startEq : tokens.start = after.source read 0 := by
    rw [ClosedTokens.start, Cursor.source, bodyEq, markerEq]
  obtain ⟨behind, behindEq, nextIs⟩ := after.exists_behind
  have listEq : tokens.toList = read ++ after.current :: behind := by
    rw [ClosedTokens.toList, bodyEq, List.append_assoc, ← markerEq, behindEq]
  have takeRead : tokens.toList.take read.length = read := by rw [listEq, List.take_left]
  have takeFound : tokens.toList.take (read.length + 1) = read ++ [after.current] := by
    rw [listEq, List.append_cons]
    exact List.take_left' (by simp)
  obtain ⟨front, frontEq, outcome⟩ := Rule.demands_or_leaves errorEq
  cases List.append_cancel_right (frontEq.symm.trans bodyEq)
  have foundEq := Rule.found_of_block_eq_error errorEq
  constructor
  case found =>
    rw [listEq, foundEq, List.getElem?_append_right (Nat.le_refl _), Nat.sub_self]
    rfl
  case viable =>
    rw [takeRead]
    rcases outcome with ⟨expected, purpose, more, -, sentence⟩ | ⟨-, sentence⟩
    · exact sentence.viable
    · rw [← List.append_nil (List.map _ _)] at sentence
      exact sentence.viable
  case stuck =>
    by_cases viable : Viable ((tokens.toList.take (read.length + 1)).map Token.kind)
    · rw [takeFound, List.map_append, List.map_singleton, kindEq] at viable
      have atEnd := ClosedTokens.eq_nil_of_kind_eq forward.1
      obtain ⟨notName, isAssign⟩ := Rule.nextKind_of_viable (startEq ▸ errorEq) atEnd viable
      rw [← kindEq] at notName
      obtain ⟨sign, back, rfl, signKind⟩ := nextIs isAssign
      obtain ⟨atSign, notViable⟩ := early_of_assign listEq notName signKind
      exact Or.inr ⟨atSign, foundEq ▸ notName, notViable⟩
    · exact Or.inl viable
  case hint =>
    rintro expected purpose found rfl
    rcases outcome with ⟨other, _, more, demandEq, sentence⟩ | ⟨leaveEq, -⟩
    · cases demandEq
      rw [takeRead]
      rw [List.append_cons] at sentence
      exact sentence.viable
    · cases leaveEq

/-- An error in the reading of a program is answered where it belongs. -/
theorem pinpoints_of_answer {after : Session}
    (answered : (start tokens).answer (.read .program) = (.error (.parse error), after)) :
    Program.ofTokens tokens.toList = .error (.parse error) ∧
      Pinpoints tokens after.position error := by
  obtain ⟨cursor, ruleEq, rfl⟩ := answer_read_eq_error answered
  have errorEq : Rule.block.run tokens.start = .error error cursor :=
    block_of_program_eq_error ruleEq
  have readEq := Program.read_eq_error_iff_block.mpr errorEq
  obtain ⟨read, bodyEq⟩ := (Rule.Forward.block.error errorEq).1
  have position : ((start tokens).moveTo cursor).position = read.length := by
    change tokens.body.length - cursor.rest.length = read.length
    have lengths := congrArg List.length bodyEq
    rw [List.length_append] at lengths
    change read.length + cursor.rest.length = tokens.body.length at lengths
    omega
  constructor
  · rw [Program.ofTokens, ClosedTokens.ofList?_toList]
    dsimp only
    rw [readEq]
  · change Pinpoints tokens ((start tokens).moveTo cursor).position error
    rw [position]
    exact pinpoints_of_error errorEq bodyEq.symm

/-- The tokens of `if x then end = 1;`, in which the assignment sign is what is wrong. -/
def assignedEnd : ClosedTokens where
  body :=
    [⟨.ifWord, "if".toList, ⟨0, 1, 1⟩⟩, ⟨.identifier, "x".toList, ⟨3, 1, 4⟩⟩,
     ⟨.thenWord, "then".toList, ⟨5, 1, 6⟩⟩, ⟨.endWord, "end".toList, ⟨10, 1, 11⟩⟩,
     ⟨.assign, "=".toList, ⟨14, 1, 15⟩⟩, ⟨.number, "1".toList, ⟨16, 1, 17⟩⟩,
     ⟨.semicolon, ";".toList, ⟨17, 1, 18⟩⟩]
  marker := ⟨.endOfInput, [], ⟨18, 1, 19⟩⟩
  body_kind_ne := by decide
  marker_kind := rfl

/-- The report on these tokens comes one token early. -/
def assignedEndError : ParseError :=
  .expectedToken .identifier .variableName ⟨.endWord, "end".toList, ⟨10, 1, 11⟩⟩

theorem pinpoints_assignedEnd :
    (start assignedEnd).answer (.read .program) =
        (.error (.parse assignedEndError), ⟨assignedEnd, 3, 2⟩) ∧
      Program.ofTokens assignedEnd.toList = .error (.parse assignedEndError) ∧
      Pinpoints assignedEnd 3 assignedEndError := by
  have answered : (start assignedEnd).answer (.read .program) =
      (.error (.parse assignedEndError), ⟨assignedEnd, 3, 2⟩) := rfl
  exact ⟨answered, pinpoints_of_answer answered⟩

end Session

end Lunette
