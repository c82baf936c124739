import Lunette.Proofs.Program.Kinds
import Lunette.Proofs.Session.Report
import Lunette.Proofs.Session.Run

/-!
# What the reading of a program depends on

Of the tokens themselves only the kinds matter: tokens of the same kinds are read as the same
program, or fail at the same token in the same way.  Of their number, a failed reading has seen
no more than the token at which it has failed and the one behind it, so whatever else comes
later, the reading fails there.
-/

namespace Lunette

open Ast

namespace ClosedTokens

variable {tokens first second : ClosedTokens} {index : Nat}

/-- An end marker is at the end only. -/
theorem eq_length_of_getElem?_toList {token : Token} (here : tokens.toList[index]? = some token)
    (isEnd : token.kind = .endOfInput) : index = tokens.body.length := by
  have inside := (List.getElem?_eq_some_iff.mp here).1
  rw [length_toList, size] at inside
  by_contra notLast
  rw [toList, List.getElem?_append_left (by omega)] at here
  exact tokens.body_kind_ne token (List.mem_of_getElem? here) isEnd

/-- The second list has the tokens that the first one has up to the one behind the index. -/
def AgreeTo (index : Nat) (first second : ClosedTokens) : Prop :=
  ∀ i ≤ index + 1, i < first.size → second.toList[i]? = first.toList[i]?

/-- Where the first list ends behind the index, the second one ends as well. -/
theorem AgreeTo.getElem?_eq (agree : AgreeTo index first second)
    (inRange : index ≤ first.body.length) :
    ∀ i ≤ index + 1, second.toList[i]? = first.toList[i]? := by
  intro i atMost
  by_cases inside : i < first.size
  · exact agree i atMost inside
  · have atEnd : index = first.body.length := by
      rw [size] at inside
      omega
    have markerEq : second.toList[index]? = some first.marker := by
      rw [agree index (Nat.le_succ _) (Nat.lt_succ_of_le inRange), getElem?_toList inRange, atEnd,
        List.drop_length]
      rfl
    have alsoAtEnd := eq_length_of_getElem?_toList markerEq first.marker_kind
    have beyond {tokens : ClosedTokens} (last : index = tokens.body.length) :
        tokens.toList[i]? = none := by
      apply List.getElem?_eq_none
      rw [length_toList, size]
      rw [size] at inside
      omega
    rw [beyond alsoAtEnd, beyond atEnd]

theorem AgreeTo.le_length (agree : AgreeTo index first second)
    (inRange : index ≤ first.body.length) : index ≤ second.body.length := by
  have here := agree index (Nat.le_succ _) (Nat.lt_succ_of_le inRange)
  rw [getElem?_toList inRange] at here
  have inside := (List.getElem?_eq_some_iff.mp here).1
  rw [length_toList] at inside
  exact Nat.le_of_lt_succ inside

theorem AgreeTo.take_eq (agree : AgreeTo index first second)
    (inRange : index ≤ first.body.length) : second.body.take index = first.body.take index := by
  have front {tokens : ClosedTokens} (within : index ≤ tokens.body.length) :
      tokens.body.take index = tokens.toList.take index :=
    (List.take_append_of_le_length within).symm
  rw [front inRange, front (agree.le_length inRange)]
  apply List.ext_getElem?
  intro i
  rw [List.getElem?_take, List.getElem?_take]
  split
  · exact agree.getElem?_eq inRange i (by omega)
  · rfl

end ClosedTokens

namespace Session

variable {tokens first second : ClosedTokens} {error : ParseError} {index depth : Nat}
  {function : Token → Token}

/-- The reading of the tokens as a program fails with the error, at the token with the index
and with so many blocks open. -/
def FailsAt (tokens : ClosedTokens) (error : ParseError) (index depth : Nat) : Prop :=
  (start tokens).answer (.read .program) = (.error (.parse error), ⟨tokens, index, depth⟩)

/-- The reading fails where the rule for blocks stops. -/
theorem failsAt_iff :
    FailsAt tokens error index depth ↔
      index ≤ tokens.body.length ∧
        Rule.block.run tokens.start = .error error (Session.cursor ⟨tokens, index, depth⟩) := by
  constructor
  · intro fails
    obtain ⟨after, ruleEq, movedEq⟩ := answer_read_eq_error fails
    have blockEq := block_of_program_eq_error ruleEq
    obtain ⟨suffix, markerEq, -⟩ := Rule.Forward.block.error blockEq
    have positionEq : index = tokens.body.length - after.rest.length :=
      congrArg Session.position movedEq
    have depthEq : depth = after.depth := congrArg Session.depth movedEq
    have restEq : after.rest = tokens.body.drop index := by
      rw [positionEq]
      exact List.suffix_iff_eq_drop.mp suffix
    have afterEq : after = Session.cursor ⟨tokens, index, depth⟩ := by
      rw [Session.cursor, ← restEq, depthEq]
      exact congrArg (Cursor.mk after.rest · after.depth) markerEq
    rw [afterEq] at blockEq
    exact ⟨positionEq ▸ Nat.sub_le _ _, blockEq⟩
  · rintro ⟨inRange, blockEq⟩
    have readEq := Program.read_eq_error_iff_block.mpr blockEq
    have positionEq : tokens.body.length - (tokens.body.drop index).length = index := by
      rw [List.length_drop]
      omega
    have movedEq : (start tokens).moveTo (Session.cursor ⟨tokens, index, depth⟩) =
        ⟨tokens, index, depth⟩ :=
      congrArg (Session.mk tokens · depth) positionEq
    have answered := @answer_program_of_error (start tokens) _ _ readEq
    exact answered.trans (congrArg (Prod.mk _) movedEq)

/-- The reading fails in one way only. -/
theorem FailsAt.unique {other : ParseError} {otherIndex otherDepth : Nat}
    (fails : FailsAt tokens error index depth)
    (otherwise : FailsAt tokens other otherIndex otherDepth) :
    error = other ∧ index = otherIndex ∧ depth = otherDepth := by
  cases fails.symm.trans otherwise
  exact ⟨rfl, rfl, rfl⟩

/-- The token at which the reading fails is the one that is reported. -/
theorem FailsAt.getElem?_eq (fails : FailsAt tokens error index depth) :
    tokens.toList[index]? = some error.found := by
  obtain ⟨inRange, blockEq⟩ := failsAt_iff.mp fails
  rw [ClosedTokens.getElem?_toList inRange, Rule.found_of_block_eq_error blockEq]
  rfl

/-! ## The kinds of the tokens -/

theorem cursor_map (keeps : KeepsKinds function) :
    Session.cursor ⟨tokens.map keeps, index, depth⟩ =
      (Session.cursor ⟨tokens, index, depth⟩).map function := by
  rw [Session.cursor, Session.cursor, Cursor.map, List.map_drop]
  rfl

/-- The changed tokens fail at the changed token. -/
theorem FailsAt.map (keeps : KeepsKinds function) (fails : FailsAt tokens error index depth) :
    FailsAt (tokens.map keeps) (error.map function) index depth := by
  obtain ⟨inRange, blockEq⟩ := failsAt_iff.mp fails
  have sameLength : (tokens.map keeps).body.length = tokens.body.length := List.length_map _
  refine failsAt_iff.mpr ⟨sameLength ▸ inRange, ?_⟩
  have follows := Rule.Follows.block keeps tokens.start
  rw [blockEq] at follows
  rw [cursor_map]
  exact follows

/-- A refused program is refused at some token. -/
theorem ofTokens_eq_parse_iff :
    Program.ofTokens tokens.toList = .error (.parse error) ↔
      ∃ index depth, FailsAt tokens error index depth := by
  constructor
  · intro refused
    cases readEq : Program.read tokens with
    | ok program after =>
        rw [Program.ofTokens_toList, Program.read_eq_ok_iff_block.mp readEq] at refused
        cases refused
    | error found after =>
        rw [Program.ofTokens_toList, Program.read_eq_error_iff_block.mp readEq] at refused
        cases refused
        exact ⟨_, _, @answer_program_of_error (start tokens) _ _ readEq⟩
  · rintro ⟨index, depth, fails⟩
    rw [Program.ofTokens_toList, (failsAt_iff.mp fails).2]

/-- Tokens of the same kinds are read as the same program, with the one tokens in the places of
the others.  If the ones are refused, so are the others, at the token with the same index. -/
theorem reads_alike_of_keepsKinds (tokens : ClosedTokens) (keeps : KeepsKinds function) :
    (∀ changed, Program.ofTokens (tokens.toList.map function) = .ok changed ↔
      ∃ program, Program.ofTokens tokens.toList = .ok program ∧
        changed = program.map function) ∧
    ∀ changed index depth, FailsAt (tokens.map keeps) changed index depth ↔
      ∃ error, FailsAt tokens error index depth ∧ changed = error.map function ∧
        tokens.toList[index]? = some error.found := by
  have wholeEq := Program.ofTokens_map tokens keeps
  constructor
  · intro changed
    rw [wholeEq]
    exact Program.carried_eq_ok_iff
  · intro changed index depth
    constructor
    · intro fails
      have refused := ofTokens_eq_parse_iff.mpr ⟨index, depth, fails⟩
      rw [ClosedTokens.toList_map, wholeEq] at refused
      obtain ⟨error, foundEq, rfl⟩ := Program.carried_eq_parse_iff.mp refused
      obtain ⟨foundIndex, foundDepth, found⟩ := ofTokens_eq_parse_iff.mp foundEq
      obtain ⟨-, rfl, rfl⟩ := fails.unique (found.map keeps)
      exact ⟨error, found, rfl, found.getElem?_eq⟩
    · rintro ⟨error, fails, rfl, -⟩
      exact fails.map keeps

/-- The tokens of `x = ; y`, in which the value is missing. -/
def unvalued : ClosedTokens where
  body :=
    [⟨.identifier, ['x'], ⟨0, 1, 1⟩⟩, ⟨.assign, ['='], ⟨2, 1, 3⟩⟩,
     ⟨.semicolon, [';'], ⟨4, 1, 5⟩⟩, ⟨.identifier, ['y'], ⟨6, 1, 7⟩⟩]
  marker := ⟨.endOfInput, [], ⟨7, 1, 8⟩⟩
  body_kind_ne := by decide
  marker_kind := rfl

/-- A name is what is found missing. -/
def unvaluedError : ParseError :=
  .expectedToken .identifier .variableName ⟨.semicolon, [';'], ⟨4, 1, 5⟩⟩

/-- The token with another lexeme, at another place. -/
def disguised (token : Token) : Token :=
  ⟨token.kind, token.kind.name ++ token.lexeme, ⟨-1, token.place.line, 0⟩⟩

theorem keepsKinds_disguised : KeepsKinds disguised :=
  fun _ => rfl

theorem reads_alike_disguised :
    KeepsKinds disguised ∧ FailsAt unvalued unvaluedError 2 1 ∧
      FailsAt (unvalued.map keepsKinds_disguised)
        (.expectedToken .identifier .variableName ⟨.semicolon, "SEMICOLON;".toList, ⟨-1, 1, 0⟩⟩)
        2 1 := by
  have fails : FailsAt unvalued unvaluedError 2 1 := rfl
  have alike := (reads_alike_of_keepsKinds unvalued keepsKinds_disguised).2
  exact ⟨keepsKinds_disguised, fails, (alike _ 2 1).mpr ⟨unvaluedError, fails, rfl, rfl⟩⟩

/-! ## The tokens up to the one behind -/

/-- What follows the token of an index is the token of the next one. -/
theorem nextKind_cursor (inRange : index ≤ tokens.body.length) :
    (Session.cursor ⟨tokens, index, depth⟩).nextKind =
      (tokens.toList[index + 1]?.map Token.kind).getD .endOfInput := by
  have nextEq : tokens.toList[index + 1]? = (tokens.body.drop index ++ [tokens.marker])[1]? := by
    rw [← List.drop_append_of_le_length inRange, List.getElem?_drop]
    rfl
  rw [nextEq, Session.cursor]
  rcases tokens.body.drop index with _ | ⟨token, _ | ⟨next, rest⟩⟩
  · rfl
  · exact tokens.marker_kind.symm
  · rfl

/-- Lists that agree look alike at the index. -/
theorem alike_of_agreeTo (agree : ClosedTokens.AgreeTo index first second)
    (inRange : index ≤ first.body.length) :
    (Session.cursor ⟨first, index, depth⟩).Alike (Session.cursor ⟨second, index, depth⟩) := by
  have alsoInRange := agree.le_length inRange
  have same := agree.getElem?_eq inRange
  have current : (Session.cursor ⟨first, index, depth⟩).current =
      (Session.cursor ⟨second, index, depth⟩).current := by
    apply Option.some.inj
    calc
      _ = first.toList[index]? := (ClosedTokens.getElem?_toList inRange).symm
      _ = second.toList[index]? := (same index (Nat.le_succ _)).symm
      _ = _ := ClosedTokens.getElem?_toList alsoInRange
  have nextKind : (Session.cursor ⟨first, index, depth⟩).nextKind =
      (Session.cursor ⟨second, index, depth⟩).nextKind := by
    rw [nextKind_cursor inRange, nextKind_cursor alsoInRange, same (index + 1) (Nat.le_refl _)]
  refine ⟨current, ?_, rfl, fun _ => by rw [nextKind]⟩
  rw [← Cursor.kind_current first.marker_kind, ← Cursor.kind_current second.marker_kind, current]

/-- A cursor at the first token stands in front of the tokens up to any index. -/
theorem start_eq_source (tokens : ClosedTokens) (index depth : Nat) :
    tokens.start =
      (Session.cursor ⟨tokens, index, depth⟩).source (tokens.body.take index) 0 := by
  rw [Cursor.source, Session.cursor, List.take_append_drop]
  rfl

/-- Whether and how the reading fails at a token is settled by the tokens up to the one behind
it. -/
theorem failsAt_of_agreeTo (fails : FailsAt first error index depth)
    (agree : ClosedTokens.AgreeTo index first second) : FailsAt second error index depth := by
  obtain ⟨inRange, blockEq⟩ := failsAt_iff.mp fails
  rw [start_eq_source first index depth, ← agree.take_eq inRange] at blockEq
  have sameEq := Rule.Local.block.same (alike_of_agreeTo agree inRange)
    (show _ = Rule.stop (.error error) _ from blockEq)
  rw [← start_eq_source] at sameEq
  exact failsAt_iff.mpr ⟨agree.le_length inRange, sameEq⟩

/-- The tokens of `x = ; y ( )`, which go on where the ones of `x = ; y` end. -/
def unvaluedLonger : ClosedTokens where
  body := unvalued.body ++
    [⟨.openParen, ['('], ⟨8, 1, 9⟩⟩, ⟨.closeParen, [')'], ⟨10, 1, 11⟩⟩]
  marker := ⟨.endOfInput, [], ⟨11, 1, 12⟩⟩
  body_kind_ne := by decide
  marker_kind := rfl

theorem failsAt_of_agreeTo_unvalued :
    FailsAt unvalued unvaluedError 2 1 ∧ ClosedTokens.AgreeTo 2 unvalued unvaluedLonger ∧
      FailsAt unvaluedLonger unvaluedError 2 1 := by
  have fails : FailsAt unvalued unvaluedError 2 1 := rfl
  have agree : ClosedTokens.AgreeTo 2 unvalued unvaluedLonger := by
    unfold ClosedTokens.AgreeTo
    decide
  exact ⟨fails, agree, failsAt_of_agreeTo fails agree⟩

end Session

end Lunette
