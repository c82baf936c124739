import Lunette.Proofs.Command.Supply
import Lunette.Proofs.Text.Lines

/-!
# Listings of tokens are faithful

The listing of the tokens of a text has a line for every token, whatever lexemes hold: a lexeme
is quoted, so no end of a line stands in the line of a token, and no lexeme passes for other
tokens.  Listings are the same only where the kinds and the lexemes of the tokens are.
-/

namespace Lunette

/-! ## The lines of tokens -/

namespace Text

theorem unprintable_of_mem_lineBreaks {c : Char} (isBreak : c ∈ lineBreaks) :
    isGraphic c = false ∧ c ≠ ' ' ∧ isPrintable c = false := by
  have all : lineBreaks.all (fun c => isGraphic c = false ∧ c ≠ ' ' ∧ isPrintable c = false) =
      true := by
    decide +kernel
  exact of_decide_eq_true (List.all_eq_true.mp all c isBreak)

end Text

/-- How a token of the lexeme is shown, wherever it stands. -/
def Lexeme.shown (lexeme : Lexeme) : Text :=
  (Token.ofLexeme lexeme ⟨0, 0, 0⟩).shown

theorem Lexeme.shown_injective : Function.Injective Lexeme.shown := by
  intro first second same
  unfold shown at same
  rw [Token.shown_eq_shownBy, Token.shown_eq_shownBy] at same
  exact congrArg Token.toLexeme (Token.unplaced_eq_of_shownBy Text.isPrintable same)

namespace Token

variable {tokens others : List Token}

/-- There is no end of a line in what is shown of a token, whatever its lexeme holds. -/
theorem lineBreak_notMem_shown {c : Char} (isBreak : c ∈ Text.lineBreaks) (token : Token) :
    c ∉ token.shown := by
  obtain ⟨notGraphic, notBlank, notPrintable⟩ := Text.unprintable_of_mem_lineBreaks isBreak
  intro member
  rw [shown_eq_shownBy] at member
  have isPrintable := (printable_of_mem_shownBy _ notGraphic notBlank member).1
  rw [notPrintable] at isPrintable
  cases isPrintable

/-- The lines of a listing are what is shown of the tokens. -/
theorem lines_listing (tokens : List Token) :
    Text.lines (listing tokens) = tokens.map shown := by
  apply Text.lines_joinLines
  · intro isListed
    obtain ⟨token, -, shownEq⟩ := List.mem_map.mp isListed
    cases shownEq
  · intro line isListed c isBreak
    obtain ⟨token, -, rfl⟩ := List.mem_map.mp isListed
    exact lineBreak_notMem_shown isBreak token

theorem map_shown_toLexeme (tokens : List Token) :
    (tokens.map toLexeme).map Lexeme.shown = tokens.map shown :=
  List.map_map

/-- A listing tells the kinds and the lexemes of the tokens, and no more. -/
theorem listing_eq_iff :
    listing tokens = listing others ↔ tokens.map toLexeme = others.map toLexeme := by
  constructor
  · intro same
    have linesEq := congrArg Text.lines same
    rw [lines_listing, lines_listing, ← map_shown_toLexeme, ← map_shown_toLexeme] at linesEq
    exact List.map_injective_iff.mpr Lexeme.shown_injective linesEq
  · intro same
    rw [listing, listing, ← map_shown_toLexeme, ← map_shown_toLexeme, same]

end Token

/-! ## Runs that list tokens -/

namespace Command

variable {files : FileReader} {format s listing : Text} {tokens : List Token}

/-- A run that is given the text itself and asked for its tokens answers with the listing. -/
def Lists (files : FileReader) (format s listing : Text) : Prop :=
  ∃ events, (run files ⟨s, true, true, format⟩).run [] = .ok listing events

theorem lists_iff (isFormat : format ∈ formats) (scanEq : Token.scan s = .ok tokens) :
    Lists files format s listing ↔ listing = Token.listing tokens := by
  let request : Request := ⟨s, true, true, format⟩
  have shows : Shows request.showTokens request.format s (Token.listing tokens) :=
    .tokens rfl scanEq
  obtain ⟨events, showEq, -⟩ := shows.exists_run []
  have runEq : (run files request).run [] = .ok (Token.listing tokens) ([] ++ events) :=
    (run_of_isText isFormat rfl).trans showEq
  constructor
  · rintro ⟨otherEvents, otherEq⟩
    cases runEq.symm.trans otherEq
    rfl
  · rintro rfl
    exact ⟨_, runEq⟩

/-- The tokens of a text that can be scanned are listed in as many lines as there are tokens, and
the listing is that of another text exactly if the tokens have the same kinds and lexemes. -/
theorem exists_lists (files : FileReader) (isFormat : format ∈ formats)
    (scanEq : Token.scan s = .ok tokens) :
    ∃ listing, Lists files format s listing ∧
      Text.lines listing = tokens.map Token.shown ∧
      (Text.lines listing).length = tokens.length ∧
      (∀ token : Token, ∀ c ∈ Text.lineBreaks, c ∉ token.shown) ∧
      ∀ other others otherListing, Token.scan other = .ok others →
        Lists files format other otherListing →
          (listing = otherListing ↔ tokens.map Token.toLexeme = others.map Token.toLexeme) := by
  refine ⟨Token.listing tokens, (lists_iff isFormat scanEq).mpr rfl, Token.lines_listing tokens,
    ?_, fun token c isBreak => Token.lineBreak_notMem_shown isBreak token, ?_⟩
  · rw [Token.lines_listing, List.length_map]
  · intro other others otherListing otherScanEq lists
    rw [(lists_iff isFormat otherScanEq).mp lists]
    exact Token.listing_eq_iff

/-- A string literal that holds the end of one line of a listing and the start of another. -/
def posing : Text := "\"x')\nToken(LITERAL_STR, 'y\"".toList

/-- The tokens of `posing`. -/
def posingTokens : List Token :=
  [⟨.string, "x')\nToken(LITERAL_STR, 'y".toList, ⟨0, 1, 1⟩⟩, ⟨.endOfInput, [], ⟨27, 2, 23⟩⟩]

/-- Two string literals, of the lexemes that the single one seems to hold. -/
def posed : Text := "\"x\" \"y\"".toList

/-- The tokens of `posed`. -/
def posedTokens : List Token :=
  [⟨.string, ['x'], ⟨0, 1, 1⟩⟩, ⟨.string, ['y'], ⟨4, 1, 5⟩⟩, ⟨.endOfInput, [], ⟨7, 1, 8⟩⟩]

theorem exists_lists_posing :
    "tree".toList ∈ formats ∧ Token.scan posing = .ok posingTokens ∧
      ∃ listing, Lists (fun _ => .error .noSuchFile) "tree".toList posing listing ∧
        (Text.lines listing).length = 2 ∧
        ¬ Lists (fun _ => .error .noSuchFile) "tree".toList posed listing := by
  have isFormat : "tree".toList ∈ formats := by decide
  have scanEq : Token.scan posing = .ok posingTokens := by decide +kernel
  have posedEq : Token.scan posed = .ok posedTokens := by decide +kernel
  obtain ⟨listing, lists, -, lengthEq, -, tells⟩ :=
    exists_lists (fun _ => .error .noSuchFile) isFormat scanEq
  refine ⟨isFormat, scanEq, listing, lists, lengthEq, fun otherLists => ?_⟩
  have lexemesEq := (tells posed posedTokens listing posedEq otherLists).mp rfl
  exact absurd (congrArg List.length lexemesEq) (by decide)

end Command

end Lunette
