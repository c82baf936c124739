import Lunette.Proofs.Lexeme.Valid

/-!
# Cutting finds the longest lexeme

Cutting looks at the first character and at most at one class of characters behind it.  It
finds a lexeme exactly when the text offers one, and then the longest one.  The argument
needs no comparison of lexemes with each other: where a text offers a lexeme, what is cut
off goes on from that lexeme's spelling, and nothing else is cut off unless it is longer.
-/

namespace Lunette.Lexeme

variable {c : Char} {s rest : Text} {lexeme : Lexeme}

/-! ## What is cut at each first character -/

theorem ofSign?_eq_none_of_isWordPart (part : isWordPart c = true) :
    Kind.ofSign? c = none := by
  cases found : Kind.ofSign? c with
  | none => rfl
  | some kind =>
      rcases List.lookup_eq_some_iff.mp found with ⟨front, back, split, -⟩
      have listed : (c, kind) ∈ Kind.signs := by simp [split]
      have noPart : ∀ entry ∈ Kind.signs, isWordPart entry.1 = false := by decide
      rw [noPart _ listed] at part
      cases part

theorem isBlank_cases (blank : isBlank c = true) : c = ' ' ∨ c = '\r' ∨ c = '\n' ∨ c = '\t' := by
  have listed : c ∈ blanks := List.contains_iff_mem.mp blank
  simpa only [blanks, List.mem_cons, List.not_mem_nil, or_false] using listed

theorem isWordPart_of_isDigit (digit : c.isDigit = true) : isWordPart c = true := by
  simp [isWordPart, digit]

theorem isWordPart_of_isWordStart (starts : isWordStart c = true) : isWordPart c = true := by
  simp [isWordPart, starts]

/-- All letters and the underscore come behind the digits. -/
theorem not_isDigit_of_isWordStart (starts : isWordStart c = true) : ¬ c.isDigit = true := by
  intro digit
  have atMost : c.val ≤ '9'.val := of_decide_eq_true (Bool.and_eq_true_iff.mp digit).2
  rcases Bool.or_eq_true_iff.mp starts with isAlpha | isUnderscore
  · rcases Bool.or_eq_true_iff.mp isAlpha with isUpper | isLower
    · have atLeast : 'A'.val ≤ c.val := (of_decide_eq_true isUpper).1
      exact absurd (UInt32.le_trans atLeast atMost) (by decide)
    · have atLeast : 'a'.val ≤ c.val :=
        of_decide_eq_true (Bool.and_eq_true_iff.mp isLower).1
      exact absurd (UInt32.le_trans atLeast atMost) (by decide)
  · rw [of_decide_eq_true isUnderscore] at atMost
    exact absurd atMost (by decide)

theorem cut_of_sign {kind : Kind} (signEq : Kind.ofSign? c = some kind) :
    cut c s = .ok (⟨kind, [c]⟩, s) := by
  simp only [cut, signEq]

theorem cut_of_lone_equals (isLone : s.head? ≠ some '=') :
    cut '=' s = .ok (⟨.assign, ['=']⟩, s) := by
  have noSign : Kind.ofSign? '=' = none := rfl
  simp only [cut, noSign, if_true]
  split
  · exact absurd rfl isLone
  · rfl

theorem cut_of_lone_tilde (isLone : s.head? ≠ some '=') :
    cut '~' s = .error (.unexpectedCharacter '~') := by
  have noSign : Kind.ofSign? '~' = none := rfl
  have notEquals : '~' ≠ '=' := by decide
  simp only [cut, noSign, notEquals, if_false, if_true]
  split
  · exact absurd rfl isLone
  · rfl

/-- Characters of words take none of the branches for signs and string literals. -/
theorem cut_of_isWordPart (part : isWordPart c = true) :
    cut c s =
      if c.isDigit then .ok (⟨.number, c :: s.takeWhile Char.isDigit⟩, s.dropWhile Char.isDigit)
      else .ok (⟨Kind.ofWord (c :: s.takeWhile isWordPart), c :: s.takeWhile isWordPart⟩,
        s.dropWhile isWordPart) := by
  have notEquals : c ≠ '=' := by
    rintro rfl
    cases part
  have notTilde : c ≠ '~' := by
    rintro rfl
    cases part
  have notQuote : c ≠ Text.doubleQuote := by
    rintro rfl
    cases part
  simp only [cut, ofSign?_eq_none_of_isWordPart part, notEquals, notTilde, notQuote, if_false]
  by_cases digit : c.isDigit = true
  · simp only [digit, if_true]
  · have starts : isWordStart c = true := by simpa [isWordPart, digit] using part
    simp only [digit, starts, if_true]

/-! ## What is cut is a lexeme -/

theorem mem_marks_of_sign {kind : Kind} (signEq : Kind.ofSign? c = some kind) :
    ⟨kind, [c]⟩ ∈ marks := by
  rcases List.lookup_eq_some_iff.mp signEq with ⟨front, back, split, -⟩
  have listed : (c, kind) ∈ Kind.signs := by simp [split]
  have allMarks : ∀ entry ∈ Kind.signs, (⟨entry.2, [entry.1]⟩ : Lexeme) ∈ marks := by decide
  exact allMarks _ listed

theorem valid_of_cutString (cutEq : cutString s = .ok (lexeme, rest)) : lexeme.Valid := by
  unfold cutString at cutEq
  split at cutEq
  · cases cutEq
  · cases cutEq
    apply Valid.string
    intro member
    have notQuote := List.all_eq_true.mp List.all_takeWhile _ member
    simp at notQuote

theorem valid_of_cut (cutEq : cut c s = .ok (lexeme, rest)) : lexeme.Valid := by
  unfold cut at cutEq
  split at cutEq
  · rename_i kind signEq
    cases cutEq
    exact .mark (mem_marks_of_sign signEq)
  · split at cutEq
    · split at cutEq <;> cases cutEq <;> exact .mark (by decide)
    · split at cutEq
      · split at cutEq <;> cases cutEq
        exact .mark (by decide)
      · split at cutEq
        · exact valid_of_cutString cutEq
        · split at cutEq
          · rename_i digit
            cases cutEq
            exact .number (by simp [isNumber, digit])
          · split at cutEq
            · rename_i starts
              cases cutEq
              exact valid_of_isWord (by simp [isWord, starts])
            · cases cutEq

/-! ## A lexeme on offer is cut or goes on -/

/-- The lexeme is the other one, or its spelling goes on from that of the other one with
characters that are no blanks. -/
structure GoesOn (other lexeme : Lexeme) (tail : Text) : Prop where
  spelling : lexeme.spelling = other.spelling ++ tail
  same : tail = [] → lexeme = other
  solid : ∀ d ∈ tail, isBlank d = false

theorem GoesOn.refl (lexeme : Lexeme) : GoesOn lexeme lexeme [] where
  spelling := (List.append_nil _).symm
  same _ := rfl
  solid := List.forall_mem_nil _

/-- A mark is a sign by itself, or one of the three that begin with `=` or `~`. -/
theorem mark_cases (listed : lexeme ∈ marks) :
    (∃ c kind, Kind.ofSign? c = some kind ∧ lexeme = ⟨kind, [c]⟩) ∨
      lexeme = ⟨.assign, ['=']⟩ ∨ lexeme = ⟨.equal, ['=', '=']⟩ ∨
        lexeme = ⟨.notEqual, ['~', '=']⟩ := by
  simp only [marks, List.mem_cons, List.not_mem_nil, or_false] at listed
  rcases listed with rfl | rfl | rfl | rfl | rfl | rfl | rfl | rfl | rfl | rfl | isLong
  case inr => exact Or.inr isLong
  all_goals exact Or.inl ⟨_, _, rfl, rfl⟩

theorem exists_cut_of_mark (listed : lexeme ∈ marks) (split : c :: s = lexeme.spelling ++ rest) :
    ∃ found after tail, cut c s = .ok (found, after) ∧ GoesOn lexeme found tail := by
  rcases mark_cases listed with ⟨sign, kind, signEq, rfl⟩ | rfl | rfl | rfl
  · rw [spelling_of_ne_string (Kind.ofSign?_ne_string signEq)] at split
    rcases List.cons_eq_cons.mp split with ⟨rfl, rfl⟩
    exact ⟨_, _, [], cut_of_sign signEq, .refl _⟩
  · rcases List.cons_eq_cons.mp split with ⟨rfl, rfl⟩
    by_cases isLonger : s.head? = some '='
    · rcases List.head?_eq_some_iff.mp isLonger with ⟨more, rfl⟩
      exact ⟨_, _, ['='], rfl, rfl, nofun, List.forall_mem_singleton.mpr rfl⟩
    · exact ⟨_, _, [], cut_of_lone_equals isLonger, .refl _⟩
  · rcases List.cons_eq_cons.mp split with ⟨rfl, rfl⟩
    exact ⟨_, _, [], rfl, .refl _⟩
  · rcases List.cons_eq_cons.mp split with ⟨rfl, rfl⟩
    exact ⟨_, _, [], rfl, .refl _⟩

theorem cutString_append {text : Text} (quoteless : Text.doubleQuote ∉ text) :
    cutString (text ++ Text.doubleQuote :: rest) = .ok (⟨.string, text⟩, rest) := by
  have passed : ∀ d ∈ text, (d != Text.doubleQuote) = true := by
    intro d member
    simpa using fun isQuote : d = Text.doubleQuote => quoteless (isQuote ▸ member)
  simp [cutString, List.dropWhile_append_of_pos passed, List.takeWhile_append_of_pos passed]

theorem exists_cut_of_string {text : Text} (quoteless : Text.doubleQuote ∉ text)
    (split : c :: s = Lexeme.spelling ⟨.string, text⟩ ++ rest) :
    ∃ found after tail, cut c s = .ok (found, after) ∧ GoesOn ⟨.string, text⟩ found tail := by
  rw [spelling, if_pos rfl, List.append_assoc] at split
  rcases List.cons_eq_cons.mp split with ⟨rfl, rfl⟩
  exact ⟨_, rest, [], cutString_append quoteless, .refl _⟩

theorem isBlank_eq_false_of_isWordPart (part : isWordPart c = true) : isBlank c = false := by
  apply Bool.eq_false_iff.mpr
  intro blank
  rcases isBlank_cases blank with rfl | rfl | rfl | rfl <;> cases part

/-- A run of characters of words goes on as long as such characters stand behind it. -/
theorem GoesOn.run {other : Lexeme} {part : Char → Bool}
    (inWord : ∀ d, part d = true → isWordPart d = true)
    (spelling : lexeme.spelling = other.spelling ++ rest.takeWhile part)
    (same : rest.takeWhile part = [] → lexeme = other) :
    GoesOn other lexeme (rest.takeWhile part) where
  spelling := spelling
  same := same
  solid d member :=
    isBlank_eq_false_of_isWordPart (inWord d (List.all_eq_true.mp List.all_takeWhile d member))

theorem exists_cut_of_number {text : Text} (digits : isNumber text = true)
    (split : c :: s = text ++ rest) :
    ∃ found after tail, cut c s = .ok (found, after) ∧ GoesOn ⟨.number, text⟩ found tail := by
  cases text with
  | nil => cases digits
  | cons first others =>
      rw [List.cons_append] at split
      rcases List.cons_eq_cons.mp split with ⟨rfl, rfl⟩
      simp only [isNumber, Bool.and_eq_true, List.all_eq_true] at digits
      rw [cut_of_isWordPart (isWordPart_of_isDigit digits.1), if_pos digits.1,
        List.takeWhile_append_of_pos digits.2]
      have goesOn : GoesOn ⟨.number, c :: others⟩
          ⟨.number, c :: (others ++ rest.takeWhile Char.isDigit)⟩
          (rest.takeWhile Char.isDigit) := by
        apply GoesOn.run
        · intro d digit
          exact isWordPart_of_isDigit digit
        · rfl
        · intro noTail
          rw [noTail, List.append_nil]
      exact ⟨_, _, _, rfl, goesOn⟩

theorem exists_cut_of_word {kind : Kind} {text : Text} (word : isWord text = true)
    (kindEq : Kind.ofWord text = kind) (split : c :: s = text ++ rest) :
    ∃ found after tail, cut c s = .ok (found, after) ∧ GoesOn ⟨kind, text⟩ found tail := by
  cases text with
  | nil => cases word
  | cons first others =>
      rw [List.cons_append] at split
      rcases List.cons_eq_cons.mp split with ⟨rfl, rfl⟩
      simp only [isWord, Bool.and_eq_true, List.all_eq_true] at word
      rw [cut_of_isWordPart (isWordPart_of_isWordStart word.1),
        if_neg (not_isDigit_of_isWordStart word.1), List.takeWhile_append_of_pos word.2]
      have goesOn : GoesOn ⟨kind, c :: others⟩
          ⟨Kind.ofWord (c :: (others ++ rest.takeWhile isWordPart)),
            c :: (others ++ rest.takeWhile isWordPart)⟩
          (rest.takeWhile isWordPart) := by
        apply GoesOn.run
        · intro d part
          exact part
        · rw [spelling_of_ne_string (Kind.ofWord_ne_string _),
            spelling_of_ne_string (kindEq ▸ Kind.ofWord_ne_string _)]
          rfl
        · intro noTail
          rw [noTail, List.append_nil, kindEq]
      exact ⟨_, _, _, rfl, goesOn⟩

/-- Where a text offers a lexeme, the lexeme that is cut goes on from it. -/
theorem Offers.exists_cut (offers : Offers (c :: s) lexeme rest) :
    ∃ found after tail, cut c s = .ok (found, after) ∧ GoesOn lexeme found tail := by
  rcases offers with ⟨valid, split⟩
  cases valid with
  | mark listed => exact exists_cut_of_mark listed split
  | string quoteless => exact exists_cut_of_string quoteless split
  | number digits => exact exists_cut_of_number digits split
  | reserved listed =>
      have word := isWord_of_reserved listed
      have kindEq := ofWord_of_reserved listed
      rw [spelling_of_ne_string (kindEq ▸ Kind.ofWord_ne_string _)] at split
      exact exists_cut_of_word word kindEq split
  | identifier word free => exact exists_cut_of_word word (ofWord_of_free free) split

/-! ## The longest lexeme is cut -/

/-- The longest lexeme that a text offers is the one that is cut. -/
theorem cut_eq_ok_iff : cut c s = .ok (lexeme, rest) ↔ Longest (c :: s) lexeme rest := by
  constructor
  · intro cutEq
    have offered : Offers (c :: s) lexeme rest :=
      ⟨valid_of_cut cutEq, cut_spelling_append cutEq⟩
    apply Longest.mk offered
    intro other more offers
    rcases offers.exists_cut with ⟨found, after, tail, foundEq, goesOn⟩
    rw [cutEq] at foundEq
    cases foundEq
    rw [goesOn.spelling, List.length_append]
    exact Nat.le_add_right _ _
  · rintro ⟨offers, longest⟩
    rcases offers.exists_cut with ⟨found, after, tail, foundEq, goesOn⟩
    have atMost := longest found after ⟨valid_of_cut foundEq, cut_spelling_append foundEq⟩
    rw [goesOn.spelling, List.length_append] at atMost
    have noTail : tail = [] := List.length_eq_zero_iff.mp (by omega)
    have sameLexeme := goesOn.same noTail
    subst sameLexeme
    have sameText := (cut_spelling_append foundEq).symm.trans offers.split
    rw [foundEq, List.append_cancel_left sameText]

/-- What stops the cutting at a character that begins no lexeme. -/
def faultAt (c : Char) : Fault :=
  if c = Text.doubleQuote then .unterminatedString else .unexpectedCharacter c

theorem eq_faultAt_of_cut {fault : Fault} (cutEq : cut c s = .error fault) :
    fault = faultAt c := by
  unfold cut at cutEq
  split at cutEq
  · cases cutEq
  · split at cutEq
    · split at cutEq <;> cases cutEq
    · split at cutEq
      · rename_i isTilde
        split at cutEq <;> cases cutEq
        rw [isTilde]
        rfl
      · split at cutEq
        · rename_i isQuote
          unfold cutString at cutEq
          split at cutEq <;> cases cutEq
          rw [isQuote]
          rfl
        · rename_i notQuote
          split at cutEq
          · cases cutEq
          · split at cutEq <;> cases cutEq
            rw [faultAt, if_neg notQuote]

/-- No lexeme is cut exactly where the text offers none. -/
theorem cut_eq_error_iff {fault : Fault} :
    cut c s = .error fault ↔
      (∀ lexeme rest, ¬ Offers (c :: s) lexeme rest) ∧ fault = faultAt c := by
  constructor
  · intro cutEq
    constructor
    · intro lexeme rest offers
      rcases offers.exists_cut with ⟨found, after, tail, foundEq, -⟩
      rw [cutEq] at foundEq
      cases foundEq
    · exact eq_faultAt_of_cut cutEq
  · rintro ⟨noOffer, rfl⟩
    cases cutEq : cut c s with
    | error fault => rw [eq_faultAt_of_cut cutEq]
    | ok found =>
        rcases found with ⟨lexeme, rest⟩
        exact absurd (cut_eq_ok_iff.mp cutEq).toOffers (noOffer lexeme rest)

end Lunette.Lexeme
