import Lunette.Kind

/-!
# Lexemes

A lexeme is the longest stretch that can be cut off the front of a text as one token.  The
module says how one is cut, what stops the cutting, and how a lexeme is spelled in source
text.
-/

namespace Lunette

/-- A stretch of source text with its kind. -/
structure Lexeme where
  /-- The kind of token that the lexeme makes. -/
  kind : Kind
  /-- The text of the lexeme; a string literal leaves out its quotes. -/
  text : Text
  deriving DecidableEq

namespace Lexeme

/-- What stops the cutting of a lexeme. -/
inductive Fault where
  /-- The character begins no lexeme. -/
  | unexpectedCharacter (char : Char)
  /-- A string literal has no closing quote. -/
  | unterminatedString
  deriving DecidableEq

/-- The blanks that separate lexemes. -/
def blanks : Text := [' ', '\r', '\n', '\t']

/-- Whether a character is a blank. -/
def isBlank (c : Char) : Bool :=
  blanks.contains c

/-- Whether a character can begin a word. -/
def isWordStart (c : Char) : Bool :=
  c.isAlpha || c = '_'

/-- Whether a character can continue a word. -/
def isWordPart (c : Char) : Bool :=
  c.isDigit || isWordStart c

/-! What is seen of a text is one character or none.  As a text it is in the class of digits,
letters or either if it is a character of the class. -/

theorem isDigitText_toList (c? : Option Char) :
    Text.isDigitText c?.toList = c?.any Char.isDigit := by
  cases c? with
  | none => rfl
  | some c => exact Text.between_singleton '0' '9' c

theorem isLetterText_toList (c? : Option Char) :
    Text.isLetterText c?.toList = c?.any isWordStart := by
  cases c? with
  | none => rfl
  | some c =>
      have lowerEq : Text.between ['a'] ['z'] [c] = c.isLower := Text.between_singleton 'a' 'z' c
      have upperEq : Text.between ['A'] ['Z'] [c] = c.isUpper :=
        (Text.between_singleton 'A' 'Z' c).trans (Bool.decide_and _ _).symm
      change Text.isLetterText [c] = (c.isUpper || c.isLower || decide (c = '_'))
      simp only [Text.isLetterText, lowerEq, upperEq, Bool.or_comm c.isUpper,
        List.cons.injEq, and_true]

theorem isWordText_toList (c? : Option Char) :
    Text.isWordText c?.toList = c?.any isWordPart := by
  rw [Text.isWordText, isDigitText_toList, isLetterText_toList]
  cases c? <;> rfl

/-- The source text of a lexeme: a string literal stands between double quotes. -/
def spelling (lexeme : Lexeme) : Text :=
  if lexeme.kind = .string then Text.doubleQuote :: lexeme.text ++ [Text.doubleQuote]
  else lexeme.text

/-- Cut the rest of a string literal, whose opening quote has been read. -/
def cutString (s : Text) : Except Fault (Lexeme × Text) :=
  match s.dropWhile (· != Text.doubleQuote) with
  | [] => .error .unterminatedString
  | _ :: rest => .ok (⟨.string, s.takeWhile (· != Text.doubleQuote)⟩, rest)

/-- Cut the lexeme that begins with the character `c`, which is followed by `s`.  The answer
is the lexeme and what follows it. -/
def cut (c : Char) (s : Text) : Except Fault (Lexeme × Text) :=
  match Kind.ofSign? c with
  | some kind => .ok (⟨kind, [c]⟩, s)
  | none =>
      if c = '=' then
        match s with
        | '=' :: rest => .ok (⟨.equal, ['=', '=']⟩, rest)
        | _ => .ok (⟨.assign, ['=']⟩, s)
      else if c = '~' then
        match s with
        | '=' :: rest => .ok (⟨.notEqual, ['~', '=']⟩, rest)
        | _ => .error (.unexpectedCharacter '~')
      else if c = Text.doubleQuote then
        cutString s
      else if c.isDigit then
        .ok (⟨.number, c :: s.takeWhile Char.isDigit⟩, s.dropWhile Char.isDigit)
      else if isWordStart c then
        let word := c :: s.takeWhile isWordPart
        .ok (⟨Kind.ofWord word, word⟩, s.dropWhile isWordPart)
      else
        .error (.unexpectedCharacter c)

/-! ## The lexeme and the rest make up the text -/

theorem spelling_of_ne_string {lexeme : Lexeme} (notString : lexeme.kind ≠ .string) :
    lexeme.spelling = lexeme.text := by
  simp [spelling, notString]

theorem cutString_spelling_append {s rest : Text} {lexeme : Lexeme}
    (cutEq : cutString s = .ok (lexeme, rest)) :
    Text.doubleQuote :: s = lexeme.spelling ++ rest := by
  unfold cutString at cutEq
  split at cutEq
  · cases cutEq
  · rename_i quote after dropEq
    cases cutEq
    have whole := List.takeWhile_append_dropWhile (p := (· != Text.doubleQuote)) (l := s)
    have headIs : quote = Text.doubleQuote := by
      simpa [dropEq] using List.head?_dropWhile_not (· != Text.doubleQuote) s
    rw [dropEq, headIs] at whole
    simp only [spelling, if_true, List.cons_append, List.append_assoc, List.nil_append]
    rw [whole]

/-- A lexeme's spelling and what follows it are the text that the lexeme was cut from. -/
theorem cut_spelling_append {c : Char} {s rest : Text} {lexeme : Lexeme}
    (cutEq : cut c s = .ok (lexeme, rest)) : c :: s = lexeme.spelling ++ rest := by
  unfold cut at cutEq
  split at cutEq
  · rename_i kind signEq
    cases cutEq
    rw [spelling_of_ne_string (Kind.ofSign?_ne_string signEq)]
    rfl
  · split at cutEq
    · rename_i isEquals
      split at cutEq <;> cases cutEq <;> simp [spelling, isEquals]
    · split at cutEq
      · rename_i isTilde
        split at cutEq <;> cases cutEq
        simp [spelling, isTilde]
      · split at cutEq
        · rename_i isQuote
          rw [isQuote]
          exact cutString_spelling_append cutEq
        · split at cutEq
          · cases cutEq
            simp [spelling, List.takeWhile_append_dropWhile]
          · split at cutEq
            · cases cutEq
              rw [spelling_of_ne_string (Kind.ofWord_ne_string _)]
              simp [List.takeWhile_append_dropWhile]
            · cases cutEq

theorem spelling_ne_nil {lexeme : Lexeme} (textNotEmpty : lexeme.text ≠ []) :
    lexeme.spelling ≠ [] := by
  unfold spelling
  split <;> simp [textNotEmpty]

/-- A lexeme that has been cut has at least one character. -/
theorem spelling_ne_nil_of_cut {c : Char} {s rest : Text} {lexeme : Lexeme}
    (cutEq : cut c s = .ok (lexeme, rest)) : lexeme.spelling ≠ [] := by
  unfold cut at cutEq
  split at cutEq
  · cases cutEq
    exact spelling_ne_nil (by simp)
  · split at cutEq
    · split at cutEq <;> cases cutEq <;> exact spelling_ne_nil (by simp)
    · split at cutEq
      · split at cutEq <;> cases cutEq
        exact spelling_ne_nil (by simp)
      · split at cutEq
        · unfold cutString at cutEq
          split at cutEq <;> cases cutEq
          simp [spelling]
        · split at cutEq
          · cases cutEq
            exact spelling_ne_nil (by simp)
          · split at cutEq <;> cases cutEq
            exact spelling_ne_nil (by simp)

/-- Cutting a lexeme leaves no more than what follows the first character. -/
theorem length_le_of_cut {c : Char} {s rest : Text} {lexeme : Lexeme}
    (cutEq : cut c s = .ok (lexeme, rest)) : rest.length ≤ s.length := by
  have lengths := congrArg List.length (cut_spelling_append cutEq)
  have positive := List.length_pos_iff.mpr (spelling_ne_nil_of_cut cutEq)
  simp only [List.length_cons, List.length_append] at lengths
  omega

end Lexeme

end Lunette
