import Lunette.Proofs.Lexeme.Cut

/-!
# When lexemes fuse

A lexeme that ends a text may go on in a text that is put behind it: a word with a letter, a
digit or an underscore, a number with a digit, and the assignment sign with an equals sign.
These are the fronts of longer lexemes, so none of them is cut off in front of the character.
In all other cases the same lexeme is cut with the other text behind.
-/

namespace Lunette

namespace Kind

/-- The kinds of words: identifiers and reserved words. -/
def isWord (kind : Kind) : Bool :=
  kind = .identifier || (reservedWords.map Prod.snd).contains kind

theorem isWord_ofWord (word : Text) : (ofWord word).isWord = true := by
  unfold ofWord
  cases found : reservedWords.lookup word with
  | none => rfl
  | some kind =>
      obtain ⟨front, back, split, -⟩ := List.lookup_eq_some_iff.mp found
      have listed : (word, kind) ∈ reservedWords := by simp [split]
      have allWords : ∀ entry ∈ reservedWords, entry.2.isWord = true := by decide
      exact allWords _ listed

end Kind

namespace Lexeme

/-- The character would be cut off with the lexeme in front of it. -/
def Fuses (lexeme : Lexeme) (d : Char) : Prop :=
  lexeme.kind.isWord = true ∧ isWordPart d = true ∨
    lexeme.kind = .number ∧ d.isDigit = true ∨
    lexeme.kind = .assign ∧ d = '='

/-- The text does not go on with a character that the lexeme fuses with. -/
def Apart (lexeme : Lexeme) (t : Text) : Prop :=
  ∀ d, t.head? = some d → ¬ lexeme.Fuses d

/-- Only words, numbers and the assignment sign fuse with anything. -/
theorem apart_of_semicolon {lexeme : Lexeme} (isSemicolon : lexeme.kind = .semicolon) (t : Text) :
    lexeme.Apart t := by
  intro d _ fuses
  unfold Fuses at fuses
  rw [isSemicolon] at fuses
  rcases fuses with ⟨isWord, -⟩ | ⟨isNumber, -⟩ | ⟨isAssign, -⟩
  · cases isWord
  · cases isNumber
  · cases isAssign

/-! ## A longer lexeme -/

theorem Valid.isWord_text {lexeme : Lexeme} (valid : lexeme.Valid)
    (wordKind : lexeme.kind.isWord = true) : isWord lexeme.text = true := by
  cases valid with
  | mark listed =>
      have noWord : ∀ lexeme ∈ marks, lexeme.kind.isWord = false := by decide
      rw [noWord _ listed] at wordKind
      cases wordKind
  | string _ => cases wordKind
  | number _ => cases wordKind
  | reserved listed => exact isWord_of_reserved listed
  | identifier word _ => exact word

theorem Valid.isNumber_text {lexeme : Lexeme} (valid : lexeme.Valid)
    (numberKind : lexeme.kind = .number) : isNumber lexeme.text = true := by
  cases valid with
  | mark listed =>
      have noNumber : ∀ lexeme ∈ marks, lexeme.kind ≠ .number := by decide
      exact absurd numberKind (noNumber _ listed)
  | string _ => cases numberKind
  | number digits => exact digits
  | reserved listed =>
      have noNumber : ∀ entry ∈ Kind.reservedWords, entry.2 ≠ .number := by decide
      exact absurd numberKind (noNumber _ listed)
  | identifier _ _ => cases numberKind

theorem Valid.text_of_assign {lexeme : Lexeme} (valid : lexeme.Valid)
    (assignKind : lexeme.kind = .assign) : lexeme.text = ['='] := by
  cases valid with
  | mark listed =>
      have onlySign : ∀ lexeme ∈ marks, lexeme.kind = .assign → lexeme.text = ['='] := by decide
      exact onlySign _ listed assignKind
  | string _ => cases assignKind
  | number _ => cases assignKind
  | reserved listed =>
      have noAssign : ∀ entry ∈ Kind.reservedWords, entry.2 ≠ .assign := by decide
      exact absurd assignKind (noAssign _ listed)
  | identifier _ _ => cases assignKind

theorem isWord_concat {text : Text} {d : Char} (word : isWord text = true)
    (part : isWordPart d = true) : isWord (text ++ [d]) = true := by
  cases text with
  | nil => cases word
  | cons c text => simpa [isWord, part] using word

theorem isNumber_concat {text : Text} {d : Char} (digits : isNumber text = true)
    (digit : d.isDigit = true) : isNumber (text ++ [d]) = true := by
  cases text with
  | nil => cases digits
  | cons c text => simpa [isNumber, digit] using digits

/-- A lexeme that fuses with a character is the front of a longer lexeme. -/
theorem Fuses.exists_longer {lexeme : Lexeme} {d : Char} (fuses : lexeme.Fuses d)
    (valid : lexeme.Valid) :
    ∃ longer : Lexeme, longer.Valid ∧ longer.spelling = lexeme.spelling ++ [d] := by
  rcases fuses with ⟨wordKind, part⟩ | ⟨numberKind, digit⟩ | ⟨assignKind, rfl⟩
  · have notString : lexeme.kind ≠ .string := fun isString => by
      rw [isString] at wordKind
      cases wordKind
    refine ⟨_, valid_of_isWord (isWord_concat (valid.isWord_text wordKind) part), ?_⟩
    rw [spelling_of_ne_string (Kind.ofWord_ne_string _), spelling_of_ne_string notString]
  · have notString : lexeme.kind ≠ .string := by
      rw [numberKind]
      decide
    refine ⟨_, .number (isNumber_concat (valid.isNumber_text numberKind) digit), ?_⟩
    rw [spelling_of_ne_string notString]
    rfl
  · have notString : lexeme.kind ≠ .string := by
      rw [assignKind]
      decide
    refine ⟨⟨.equal, ['=', '=']⟩, .mark (by decide), ?_⟩
    rw [spelling_of_ne_string notString, valid.text_of_assign assignKind]
    rfl

/-- The longest lexeme on offer does not fuse with what stands behind it. -/
theorem Longest.apart {s rest : Text} {lexeme : Lexeme} (longest : Longest s lexeme rest) :
    lexeme.Apart rest := by
  intro d ahead fuses
  obtain ⟨more, rfl⟩ := List.head?_eq_some_iff.mp ahead
  obtain ⟨longer, valid, spellingEq⟩ := fuses.exists_longer longest.valid
  have offers : Offers s longer more :=
    ⟨valid, by rw [longest.split, spellingEq, List.append_assoc, List.singleton_append]⟩
  have atMost := longest.longest longer more offers
  rw [spellingEq, List.length_append, List.length_singleton] at atMost
  omega

/-! ## The same lexeme in front of another text -/

/-- A run of characters ends where it did if the text behind it does not go on with it. -/
theorem run_append {part : Char → Bool} {s t : Text}
    (apart : s.dropWhile part = [] → ∀ d, t.head? = some d → part d = false) :
    (s ++ t).takeWhile part = s.takeWhile part ∧
      (s ++ t).dropWhile part = s.dropWhile part ++ t := by
  induction s with
  | nil =>
      cases t with
      | nil => exact ⟨rfl, rfl⟩
      | cons d t =>
          have notPart := apart rfl d rfl
          simp [notPart]
  | cons c s inductionHypothesis =>
      by_cases isPart : part c = true
      · rw [List.dropWhile_cons_of_pos isPart] at apart
        obtain ⟨takeEq, dropEq⟩ := inductionHypothesis apart
        simp [isPart, takeEq, dropEq]
      · simp [isPart]

variable {c : Char} {s t rest : Text} {lexeme : Lexeme}

theorem cutString_append_of_cut (cutEq : cutString s = .ok (lexeme, rest)) :
    cutString (s ++ t) = .ok (lexeme, rest ++ t) := by
  unfold cutString at cutEq
  split at cutEq
  · cases cutEq
  · rename_i quote behind dropEq
    cases cutEq
    obtain ⟨takeSame, dropSame⟩ := @run_append (· != Text.doubleQuote) s t fun noQuote =>
      nomatch dropEq.symm.trans noQuote
    rw [cutString, dropSame, dropEq, takeSame]
    rfl

/-- An equals sign is alone if none follows it. -/
theorem cut_append_of_lone_equals (isLone : ∀ more, s ≠ '=' :: more)
    (apart : s = [] → Apart ⟨.assign, ['=']⟩ t) :
    cut '=' (s ++ t) = .ok (⟨.assign, ['=']⟩, s ++ t) := by
  apply cut_of_lone_equals
  cases s with
  | nil =>
      intro ahead
      exact apart rfl '=' ahead (Or.inr (Or.inr ⟨rfl, rfl⟩))
  | cons d more =>
      intro ahead
      cases Option.some.inj ahead
      exact isLone more rfl

/-- The same lexeme is cut if the text ends with something else or the lexeme does not fuse
with what is put behind it. -/
theorem cut_append (cutEq : cut c s = .ok (lexeme, rest)) (apart : rest = [] → lexeme.Apart t) :
    cut c (s ++ t) = .ok (lexeme, rest ++ t) := by
  by_cases part : isWordPart c = true
  · rw [cut_of_isWordPart part] at cutEq ⊢
    by_cases digit : c.isDigit = true
    · rw [if_pos digit] at cutEq ⊢
      cases cutEq
      obtain ⟨takeEq, dropEq⟩ := @run_append Char.isDigit s t fun atEnd d ahead =>
        Bool.eq_false_iff.mpr fun isDigit => apart atEnd d ahead (Or.inr (Or.inl ⟨rfl, isDigit⟩))
      rw [takeEq, dropEq]
    · rw [if_neg digit] at cutEq ⊢
      cases cutEq
      obtain ⟨takeEq, dropEq⟩ := @run_append isWordPart s t fun atEnd d ahead =>
        Bool.eq_false_iff.mpr fun isPart =>
          apart atEnd d ahead (Or.inl ⟨Kind.isWord_ofWord _, isPart⟩)
      rw [takeEq, dropEq]
  · unfold cut at cutEq
    split at cutEq
    · rename_i kind signEq
      cases cutEq
      exact cut_of_sign signEq
    · split at cutEq
      · rename_i isEquals
        subst isEquals
        split at cutEq
        · cases cutEq
          rfl
        · rename_i isLone
          cases cutEq
          exact cut_append_of_lone_equals (fun more => isLone more) apart
      · split at cutEq
        · rename_i isTilde
          subst isTilde
          split at cutEq <;> cases cutEq
          rfl
        · split at cutEq
          · rename_i isQuote
            subst isQuote
            exact cutString_append_of_cut cutEq
          · split at cutEq
            · rename_i digit
              exact absurd (isWordPart_of_isDigit digit) part
            · split at cutEq
              · rename_i starts
                exact absurd (isWordPart_of_isWordStart starts) part
              · cases cutEq

end Lexeme

end Lunette
