import Lunette.Lexeme
import Mathlib.Data.List.Basic

/-!
# The lexemes there are

The lexemes are listed by their form, without saying how they are found in a text: marks,
string literals, numbers, reserved words and identifiers.  A text offers a lexeme when it
begins with the lexeme's spelling, and of the lexemes on offer the longest is meant.
-/

namespace Lunette.Lexeme

/-- The lexemes that are made of signs. -/
def marks : List Lexeme :=
  [⟨.plus, ['+']⟩, ⟨.minus, ['-']⟩, ⟨.star, ['*']⟩, ⟨.slash, ['/']⟩, ⟨.less, ['<']⟩,
   ⟨.greater, ['>']⟩, ⟨.comma, [',']⟩, ⟨.semicolon, [';']⟩, ⟨.openParen, ['(']⟩,
   ⟨.closeParen, [')']⟩, ⟨.assign, ['=']⟩, ⟨.equal, ['=', '=']⟩, ⟨.notEqual, ['~', '=']⟩]

/-- Whether a text is a word: a letter or an underscore, with letters, digits and underscores
behind it. -/
def isWord : Text → Bool
  | [] => false
  | c :: s => isWordStart c && s.all isWordPart

/-- Whether a text is a number: digits, at least one. -/
def isNumber : Text → Bool
  | [] => false
  | c :: s => c.isDigit && s.all Char.isDigit

/-- The lexemes that there are. -/
inductive Valid : Lexeme → Prop where
  | mark {lexeme : Lexeme} (listed : lexeme ∈ marks) : Valid lexeme
  | string {text : Text} (quoteless : Text.doubleQuote ∉ text) : Valid ⟨.string, text⟩
  | number {text : Text} (digits : isNumber text = true) : Valid ⟨.number, text⟩
  | reserved {text : Text} {kind : Kind} (listed : (text, kind) ∈ Kind.reservedWords) :
      Valid ⟨kind, text⟩
  | identifier {text : Text} (word : isWord text = true)
      (free : text ∉ Kind.reservedWords.map Prod.fst) : Valid ⟨.identifier, text⟩

/-- The text is the spelling of a lexeme with the rest behind it. -/
structure Offers (s : Text) (lexeme : Lexeme) (rest : Text) : Prop where
  valid : lexeme.Valid
  split : s = lexeme.spelling ++ rest

/-- Of all lexemes that the text offers, this one has the longest spelling. -/
structure Longest (s : Text) (lexeme : Lexeme) (rest : Text) : Prop
    extends Offers s lexeme rest where
  longest : ∀ other more, Offers s other more → other.spelling.length ≤ lexeme.spelling.length

/-! ## Words -/

theorem isWord_of_reserved {text : Text} {kind : Kind}
    (listed : (text, kind) ∈ Kind.reservedWords) : isWord text = true := by
  have allWords : ∀ entry ∈ Kind.reservedWords, isWord entry.1 = true := by decide
  exact allWords _ listed

theorem ofWord_of_reserved {text : Text} {kind : Kind}
    (listed : (text, kind) ∈ Kind.reservedWords) : Kind.ofWord text = kind := by
  have allFound : ∀ entry ∈ Kind.reservedWords, Kind.ofWord entry.1 = entry.2 := by decide
  exact allFound _ listed

theorem ofWord_of_free {text : Text} (free : text ∉ Kind.reservedWords.map Prod.fst) :
    Kind.ofWord text = .identifier := by
  cases found : Kind.reservedWords.lookup text with
  | none => simp [Kind.ofWord, found]
  | some kind =>
      rcases List.lookup_eq_some_iff.mp found with ⟨front, back, split, -⟩
      have listed : (text, kind) ∈ Kind.reservedWords := by simp [split]
      exact absurd (List.mem_map_of_mem listed) free

/-- A word is a lexeme of the kind that it is looked up as. -/
theorem valid_of_isWord {text : Text} (word : isWord text = true) :
    Valid ⟨Kind.ofWord text, text⟩ := by
  by_cases reserved : text ∈ Kind.reservedWords.map Prod.fst
  · rcases List.mem_map.mp reserved with ⟨⟨_, kind⟩, listed, rfl⟩
    rw [ofWord_of_reserved listed]
    exact .reserved listed
  · rw [ofWord_of_free reserved]
    exact .identifier word reserved

end Lunette.Lexeme
