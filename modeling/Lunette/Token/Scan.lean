import Lunette.Lexeme
import Lunette.Token

/-!
# Cutting a text into tokens

Scanning skips blanks, cuts off the longest lexeme at every other place, and ends the tokens
with one end marker of empty lexeme at the end of the text.  It stops at the first place at
which no lexeme can be cut.  Every token carries the place of its first character.
-/

namespace Lunette

/-- Why a text cannot be cut into tokens, and where. -/
inductive ScanError where
  /-- The character at the place begins no lexeme. -/
  | unexpectedCharacter (char : Char) (place : Place)
  /-- The string literal that opens at the place is never closed. -/
  | unterminatedString (place : Place)
  deriving DecidableEq

/-- A fault in cutting a lexeme, with the place at which the lexeme would begin. -/
def Lexeme.Fault.located (place : Place) : Lexeme.Fault → ScanError
  | .unexpectedCharacter char => .unexpectedCharacter char place
  | .unterminatedString => .unterminatedString place

namespace Token

/-- The token that a lexeme makes at a place. -/
def ofLexeme (lexeme : Lexeme) (place : Place) : Token :=
  ⟨lexeme.kind, lexeme.text, place⟩

/-- The token that ends a text whose end is at the given place. -/
def endMarker (place : Place) : Token :=
  ⟨.endOfInput, [], place⟩

/-- The tokens of a text that begins at the given place. -/
def scanFrom (place : Place) : Text → Except ScanError (List Token)
  | [] => .ok [endMarker place]
  | c :: s =>
      if Lexeme.isBlank c then
        scanFrom (place.after c) s
      else
        match _cutEq : Lexeme.cut c s with
        | .error fault => .error (fault.located place)
        | .ok (lexeme, rest) =>
            (scanFrom (place.past lexeme.spelling) rest).map (ofLexeme lexeme place :: ·)
  termination_by s => s.length
  decreasing_by
    · simp
    · have := Lexeme.length_le_of_cut _cutEq
      simp only [List.length_cons]
      omega

/-- The tokens of a whole text. -/
def scan (s : Text) : Except ScanError (List Token) :=
  scanFrom .start s

end Token

end Lunette
