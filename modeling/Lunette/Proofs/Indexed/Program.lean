import Lunette.Indexed.Program
import Lunette.Proofs.Indexed.Routine
import Lunette.Proofs.Indexed.Scan
import Lunette.Proofs.Program.Concatenation

/-!
# The front end by index commits no fault of its own

For every source the front end by index ends, and its answer is the one of the source: the tokens
with their program, or the error of the scanner or of the grammar.  No character is read behind
the end of the text, no token list is refused, no token is looked for outside the list, and no
expression is left with half of its parts.  No bound above the number of characters cuts it off.
-/

namespace Lunette.Indexed

open Ast

/-- A failure to read a source, as a fault. -/
def Fault.ofFailure : Failure → Fault
  | .scan error => .scan error
  | .unclosed => .unclosed
  | .parse error => .parse error

/-- The answer says what the text is: a program with its tokens, or why it is none. -/
inductive Answers (s : Text) : Except Fault (List Token × Program) → Prop where
  | program {tokens : List Token} {program : Program} (scanEq : Token.scan s = .ok tokens)
      (sourceEq : Program.ofSource s = .ok (tokens, program)) :
      Answers s (.ok (tokens, program))
  | scan {error : ScanError} (scanEq : Token.scan s = .error error)
      (sourceEq : Program.ofSource s = .error (.scan error)) : Answers s (.error (.scan error))
  | parse {tokens : List Token} {error : ParseError} (scanEq : Token.scan s = .ok tokens)
      (sourceEq : Program.ofSource s = .error (.parse error)) : Answers s (.error (.parse error))

variable {s : Text} {bound : Nat}

/-- The text of a source is scanned as it is. -/
theorem scan_eq (within : s.length < bound) :
    scan bound s = some ((Token.scan s).mapError .scan) :=
  Scanning.answer_tokens [] s within

theorem isClosed_toList (closed : ClosedTokens) : isClosed closed.toList = true := by
  have bodyOpen : closed.body.countP (·.kind = .endOfInput) = 0 := by
    rw [List.countP_eq_zero]
    simpa using closed.body_kind_ne
  unfold isClosed ClosedTokens.toList
  rw [List.getLast?_concat, List.countP_append, bodyOpen]
  simp [closed.marker_kind]

/-- Scanned tokens pass the check of the parser. -/
theorem isClosed_of_scan {tokens : List Token} (scanEq : Token.scan s = .ok tokens) :
    isClosed tokens = true := by
  obtain ⟨closed, closedEq⟩ := Token.exists_closed_of_scan scanEq
  rw [← ClosedTokens.toList_of_ofList? closedEq]
  exact isClosed_toList closed

/-- Closed tokens are parsed as they are read by the rules. -/
theorem parse_toList (closed : ClosedTokens) (within : closed.body.length < bound) :
    parse bound closed.toList =
      some ((Program.ofTokens closed.toList).mapError .ofFailure) := by
  have stands : Stands closed closed.start := ⟨List.suffix_refl _, rfl⟩
  have positionEq : positionOf closed closed.start = ⟨0, 0⟩ := by
    rw [positionOf, ClosedTokens.start, Nat.sub_self]
  have fits : Activation.size closed ⟨.block, (positionOf closed closed.start).index⟩ <
      Routine.ranks * bound := by
    rw [positionEq, Activation.size, Routine.rank, Routine.ranks]
    omega
  have answerEq := Routine.run_within stands fits
  rw [positionEq] at answerEq
  rw [parse, if_pos (isClosed_toList closed), Steps.map_fst_run_map, answerEq,
    Program.ofTokens_toList]
  change some (Except.map _ (answerOf closed (Rule.block.run closed.start)).1) = _
  cases Rule.block.run closed.start <;> rfl

/-- Scanned tokens are parsed as they are read by the rules.  There are too few of them to be cut
off. -/
theorem parse_of_scan {tokens : List Token} (within : s.length < bound)
    (scanEq : Token.scan s = .ok tokens) :
    parse bound tokens = some ((Program.ofTokens tokens).mapError .ofFailure) := by
  obtain ⟨closed, closedEq⟩ := Token.exists_closed_of_scan scanEq
  have notMore := Token.length_le_of_scanFrom scanEq
  rw [← ClosedTokens.toList_of_ofList? closedEq] at notMore ⊢
  rw [ClosedTokens.length_toList, ClosedTokens.size] at notMore
  exact parse_toList closed (by omega)

/-- The front end by index reads what the rules read. -/
theorem parseSource_eq {source : Source} (within : source.toText.length < bound) :
    parseSource bound source =
      some ((Program.ofSource source.toText).mapError .ofFailure) := by
  rw [parseSource, scan_eq within]
  cases scanEq : Token.scan source.toText with
  | error error =>
      rw [Program.ofSource_of_scan_error scanEq]
      rfl
  | ok tokens =>
      change (parse bound tokens >>= _) = _
      rw [parse_of_scan within scanEq, Program.ofSource_of_scan_ok scanEq]
      cases Program.ofTokens tokens <;> rfl

/-- What is read from a text says what the text is. -/
theorem answers_ofSource (s : Text) : Answers s ((Program.ofSource s).mapError .ofFailure) := by
  cases scanEq : Token.scan s with
  | error error =>
      have sourceEq := Program.ofSource_of_scan_error scanEq
      rw [sourceEq]
      exact .scan scanEq sourceEq
  | ok tokens =>
      have sourceEq := Program.ofSource_of_scan_ok scanEq
      obtain ⟨closed, closedEq⟩ := Token.exists_closed_of_scan scanEq
      rw [← ClosedTokens.toList_of_ofList? closedEq, Program.ofTokens_toList,
        ClosedTokens.toList_of_ofList? closedEq] at sourceEq
      rw [sourceEq]
      cases readEq : Rule.block.run closed.start with
      | ok block after =>
          rw [readEq] at sourceEq
          exact .program scanEq sourceEq
      | error error after =>
          rw [readEq] at sourceEq
          exact .parse scanEq sourceEq

/-- The front end by index ends on every source with what the source is, within one turn more than
there are characters, and commits no fault of its own on the way. -/
theorem exists_answers_parseSource (source : Source) :
    (∃ answer, Answers source.toText answer ∧
      ∀ bound, source.toText.length < bound → parseSource bound source = some answer) ∧
      ∀ tokens, Token.scan source.toText = .ok tokens → isClosed tokens = true :=
  ⟨⟨_, answers_ofSource source.toText, fun _ => parseSource_eq⟩, fun _ => isClosed_of_scan⟩

end Lunette.Indexed
