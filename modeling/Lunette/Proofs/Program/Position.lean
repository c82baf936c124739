import Lunette.Proofs.Reading.Demand.Statement
import Lunette.Proofs.Reading.Program
import Lunette.Proofs.Token.Fault
import Lunette.Proofs.Token.Tiling

/-!
# Reported positions are counted in the text

Every token carries the place of its first character, and whatever goes wrong in the reading
of a source text is reported at the place of a character, or at the end of the text.  The
place is the one that is counted in the text: it tells the characters in front, the line
feeds among them, and the characters behind the last line feed.
-/

namespace Lunette

open Ast

namespace Token

/-- Scanned tokens have counted places. -/
theorem exists_ofIndex_of_scan {s : Text} {tokens : List Token} (scanEq : scan s = .ok tokens) :
    ∀ token ∈ tokens, ∃ index ≤ s.length, token.place = .ofIndex s index := by
  obtain ⟨body, rfl, tiled⟩ := tiled_of_scan scanEq
  intro token member
  rcases List.mem_append.mp member with inBody | isMarker
  · obtain ⟨start, c, placeEq, here, -⟩ := tiled.exists_start token inBody
    exact ⟨start, Nat.le_of_lt (List.getElem?_eq_some_iff.mp here).1, placeEq⟩
  · rw [List.mem_singleton.mp isMarker]
    exact ⟨s.length, Nat.le_refl _, rfl⟩

end Token

/-- A cursor into closed tokens stands at one of them. -/
theorem ClosedTokens.current_mem {tokens : ClosedTokens} {cursor : Cursor}
    (suffix : cursor.rest <:+ tokens.body) (markerEq : cursor.marker = tokens.marker) :
    cursor.current ∈ tokens.toList := by
  rcases cursor with ⟨_ | ⟨token, rest⟩, marker, depth⟩
  · exact List.mem_append_right _ (List.mem_singleton.mpr markerEq)
  · exact List.mem_append_left _ (suffix.subset List.mem_cons_self)

namespace Diagnostic

/-- What the diagnostic says of the text holds at the index. -/
structure PointsAt (s : Text) (diagnostic : Diagnostic) (index : Nat) : Prop where
  /-- The index is in the text or at its end. -/
  inText : index ≤ s.length
  /-- The place of the diagnostic is counted up to the index. -/
  placeEq : diagnostic.place = .ofIndex s index
  /-- The line is shown as the line number. -/
  lineNumberEq : diagnostic.lineNumber = (Place.ofIndex s index).line
  /-- The column is shown as the offset in the line. -/
  lineOffsetEq : diagnostic.lineOffset = (Place.ofIndex s index).column
  /-- A character that is reported stands at the index. -/
  character : ∀ chars, diagnostic.chars? = some chars → ∃ c, chars = [c] ∧ s[index]? = some c
  /-- A string literal that is not closed opens at the index, and no quote follows. -/
  string : diagnostic.category = .unterminatedString →
    s[index]? = some Text.doubleQuote ∧ Text.doubleQuote ∉ s.drop (index + 1)
  /-- A token that is reported is one of the text and starts at the index. -/
  token : ∀ found, diagnostic.token? = some found →
    found.place = .ofIndex s index ∧ ∃ tokens, Token.scan s = .ok tokens ∧ found ∈ tokens

/-- A text that cannot be scanned is diagnosed where the scanning stops. -/
theorem exists_pointsAt_of_scan {s : Text} {error : ScanError}
    (scanEq : Token.scan s = .error error) : ∃ index, error.diagnostic.PointsAt s index := by
  obtain ⟨fault, index, stops, rfl⟩ := Token.stopsAt_of_scan scanEq
  have inText := Nat.le_of_lt stops.lt_length
  obtain ⟨c, here, -, cutEq⟩ := stops
  cases fault with
  | unexpectedCharacter d =>
      have isHere := Lexeme.eq_of_cut_unexpected cutEq
      subst isHere
      refine ⟨index, inText, rfl, rfl, rfl, ?_, nofun, nofun⟩
      rintro _ ⟨⟩
      exact ⟨d, rfl, here⟩
  | unterminatedString =>
      obtain ⟨rfl, quoteless⟩ := Lexeme.quote_of_cut_unterminated cutEq
      exact ⟨index, inText, rfl, rfl, rfl, nofun, fun _ => ⟨here, quoteless⟩, nofun⟩

/-- Tokens that cannot be read as a program are diagnosed at one of them. -/
theorem exists_pointsAt_of_read {s : Text} {tokens : List Token} {closed : ClosedTokens}
    {error : ParseError} {after : Cursor} (scanEq : Token.scan s = .ok tokens)
    (closedEq : ClosedTokens.ofList? tokens = some closed)
    (errorEq : Program.read closed = .error error after) :
    ∃ index, error.diagnostic.PointsAt s index := by
  have blockEq := Program.read_eq_error_iff_block.mp errorEq
  have forward := Rule.Forward.block.error blockEq
  have member : error.found ∈ tokens := by
    rw [Rule.found_of_block_eq_error blockEq, ← ClosedTokens.toList_of_ofList? closedEq]
    exact ClosedTokens.current_mem forward.1 forward.2.1
  obtain ⟨index, inText, placeEq⟩ := Token.exists_ofIndex_of_scan scanEq _ member
  have tokenEq : error.diagnostic.token? = some error.found := by cases error <;> rfl
  have diagnosticPlace : error.diagnostic.place = .ofIndex s index := by
    rw [← placeEq]
    cases error <;> rfl
  refine ⟨index, inText, diagnosticPlace, ?_, ?_, ?_, ?_, ?_⟩
  · rw [lineNumber, diagnosticPlace]
  · rw [lineOffset, diagnosticPlace]
  · cases error <;> exact nofun
  · cases error <;> exact nofun
  · rw [tokenEq]
    rintro _ ⟨⟩
    exact ⟨placeEq, tokens, scanEq, member⟩

/-- Whatever is reported of a source text is reported at its true position, and so are the
tokens of the text. -/
theorem exists_pointsAt (s : Text) :
    (∀ tokens, Token.scan s = .ok tokens →
      ∀ token ∈ tokens, ∃ index ≤ s.length, token.place = .ofIndex s index) ∧
    (∀ error, Token.scan s = .error error → ∃ index, error.diagnostic.PointsAt s index) ∧
    ∀ failure, Program.ofSource s = .error failure →
      ∃ diagnostic index, failure.diagnostic? = some diagnostic ∧ diagnostic.PointsAt s index := by
  refine ⟨fun _ => Token.exists_ofIndex_of_scan, fun _ => exists_pointsAt_of_scan, ?_⟩
  intro failure failureEq
  cases scanEq : Token.scan s with
  | error error =>
      rw [Program.ofSource_of_scan_error scanEq] at failureEq
      cases failureEq
      obtain ⟨index, points⟩ := exists_pointsAt_of_scan scanEq
      exact ⟨_, index, rfl, points⟩
  | ok tokens =>
      obtain ⟨closed, closedEq⟩ := Token.exists_closed_of_scan scanEq
      rw [Program.ofSource_of_scan_ok scanEq] at failureEq
      simp only [Program.ofTokens, closedEq] at failureEq
      cases readEq : Program.read closed with
      | ok program after =>
          rw [readEq] at failureEq
          cases failureEq
      | error error after =>
          rw [readEq] at failureEq
          cases failureEq
          obtain ⟨index, points⟩ := exists_pointsAt_of_read scanEq closedEq readEq
          exact ⟨_, index, rfl, points⟩

end Diagnostic

end Lunette
