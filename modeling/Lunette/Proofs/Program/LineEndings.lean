import Lunette.Proofs.Program.Kinds
import Lunette.Proofs.Token.LineEndings

/-!
# Line endings do not change a program

The text of a file has its line endings unified before it is scanned, and a text that is given
as an argument has not.  The two texts have the same tokens up to their line endings, so they
are the same program with these tokens in it, or neither is a program.  Where a carriage return
always has a line feed behind it, all lines and columns are the same as well.
-/

namespace Lunette

open Ast
open Text (unifyLineEndings)

/-- No line ending has a character in it that is not blank. -/
theorem Place.sameSpot_unified_of_solid {s : Text} {i : Nat} {c : Char} (paired : s.Paired)
    (here : s[i]? = some c) (solid : Lexeme.isBlank c = false) :
    ((ofIndex s i).unified s).SameSpot (ofIndex s i) := by
  have inText := Nat.le_of_lt (List.getElem?_eq_some_iff.mp here).1
  have whole : s[i]? ≠ some '\n' := by
    rw [here]
    exact @Lexeme.head?_ne_feed_of_solid c [] solid
  exact sameSpot_unified paired inText whole

namespace Token

variable {s : Text} {tokens : List Token} {error : ScanError}

theorem keepsKinds_unified (s : Text) : KeepsKinds (unified s) :=
  fun _ => rfl

/-- No token starts in the middle of a line ending. -/
theorem sameSpot_unified_of_scan (paired : s.Paired) (scanEq : scan s = .ok tokens) :
    ∀ token ∈ tokens, (token.unified s).place.SameSpot token.place := by
  obtain ⟨body, rfl, tiled⟩ := tiled_of_scan scanEq
  intro token member
  rcases List.mem_append.mp member with inBody | isMarker
  · obtain ⟨start, c, placeEq, here, solid⟩ := tiled.exists_start token inBody
    rw [unified, placeEq]
    exact Place.sameSpot_unified_of_solid paired here solid
  · rw [List.mem_singleton.mp isMarker]
    have ended : s[s.length]? ≠ some '\n' := by simp
    exact Place.sameSpot_unified paired (Nat.le_refl _) ended

/-- Scanning does not stop in the middle of a line ending. -/
theorem sameSpot_unified_of_scan_error (paired : s.Paired) (scanEq : scan s = .error error) :
    (error.unified s).diagnostic.place.SameSpot error.diagnostic.place := by
  obtain ⟨fault, index, ⟨c, here, solid, -⟩, rfl⟩ := stopsAt_of_scan scanEq
  have located : ∀ place, (fault.located place).diagnostic.place = place := by
    intro place
    cases fault <;> rfl
  rw [ScanError.unified_located, located, located]
  exact Place.sameSpot_unified_of_solid paired here solid

end Token

namespace Ast.Program

/-- With unified line endings a text has the same tokens, up to their line endings, or the same
scan error; its tokens are the same program; and lines and columns are the same if every carriage
return has a line feed behind it. -/
theorem alike_unifyLineEndings (s : Text) :
    Token.scan (unifyLineEndings s) = Token.scannedUnified s (Token.scan s) ∧
    (∀ tokens, Token.scan s = .ok tokens →
      ofTokens (tokens.map (Token.unified s)) = carried (Token.unified s) (ofTokens tokens)) ∧
    (s.Paired →
      (∀ tokens, Token.scan s = .ok tokens →
        ∀ token ∈ tokens, (token.unified s).place.SameSpot token.place) ∧
      ∀ error, Token.scan s = .error error →
        (error.unified s).diagnostic.place.SameSpot error.diagnostic.place) := by
  refine ⟨Token.scan_unifyLineEndings s, ?_, fun paired => ⟨?_, ?_⟩⟩
  · intro tokens scanEq
    obtain ⟨closed, closedEq⟩ := Token.exists_closed_of_scan scanEq
    rw [← ClosedTokens.toList_of_ofList? closedEq]
    exact ofTokens_map closed (Token.keepsKinds_unified s)
  · exact fun _ => Token.sameSpot_unified_of_scan paired
  · exact fun _ => Token.sameSpot_unified_of_scan_error paired

/-- A program of three lines, with a line ending between its tokens and one in a string literal. -/
def threeLines : Text :=
  "x=\r\n\"a\r\nb\";".toList

/-- The tokens of the text. -/
def threeLinesTokens : List Token :=
  [⟨.identifier, ['x'], ⟨0, 1, 1⟩⟩, ⟨.assign, ['='], ⟨1, 1, 2⟩⟩,
   ⟨.string, "a\r\nb".toList, ⟨4, 2, 1⟩⟩, ⟨.semicolon, [';'], ⟨10, 3, 3⟩⟩,
   ⟨.endOfInput, [], ⟨11, 3, 4⟩⟩]

/-- The tokens with unified line endings, which come sooner by the carriage returns. -/
def threeLinesUnified : List Token :=
  [⟨.identifier, ['x'], ⟨0, 1, 1⟩⟩, ⟨.assign, ['='], ⟨1, 1, 2⟩⟩,
   ⟨.string, "a\nb".toList, ⟨3, 2, 1⟩⟩, ⟨.semicolon, [';'], ⟨8, 3, 3⟩⟩,
   ⟨.endOfInput, [], ⟨9, 3, 4⟩⟩]

theorem alike_unifyLineEndings_threeLines :
    Token.scan threeLines = .ok threeLinesTokens ∧ threeLines.Paired ∧
      Token.scan (unifyLineEndings threeLines) = .ok threeLinesUnified ∧
      ∀ token ∈ threeLinesTokens, (token.unified threeLines).place.SameSpot token.place := by
  have scanEq : Token.scan threeLines = .ok threeLinesTokens := by decide +kernel
  have paired : threeLines.Paired := by decide +kernel
  obtain ⟨scanUnified, -, sameSpots⟩ := alike_unifyLineEndings threeLines
  have unifiedEq : threeLinesTokens.map (Token.unified threeLines) = threeLinesUnified := by
    decide +kernel
  rw [scanEq, Token.scannedUnified, unifiedEq] at scanUnified
  exact ⟨scanEq, paired, scanUnified, (sameSpots paired).1 _ scanEq⟩

end Ast.Program

end Lunette
