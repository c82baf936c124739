import Lunette.Proofs.Text.Hex
import Lunette.Text.Quoted
import Mathlib.Data.List.Basic

/-!
# Quoted text is read back

The printable code points are a matter of the Unicode version, so quoting is looked at for
any set of them.  Whatever the set, a quoted text tells the text apart from every other one,
and there is no line feed in it, nor anything else that is neither printable nor one of the
graphic characters of ASCII.
-/

namespace Lunette.Text

/-- One code point between the given marks, where the printable ones are given. -/
def quoteCharBy (printable : Char → Bool) (mark c : Char) : Text :=
  if c = mark || c = backslash then [backslash, c]
  else if c = '\n' then [backslash, 'n']
  else if c = '\r' then [backslash, 'r']
  else if c = '\t' then [backslash, 't']
  else if printable c then [c]
  else hexEscape c

/-- The text between quotation marks, where the printable code points are given. -/
def quotedBy (printable : Char → Bool) (s : Text) : Text :=
  quoteMark s :: s.flatMap (quoteCharBy printable (quoteMark s)) ++ [quoteMark s]

theorem quoted_eq_quotedBy (s : Text) : quoted s = quotedBy isPrintable s :=
  rfl

/-! ## Reading back one code point -/

/-- Read a code point from as many hexadecimal digits as the width says. -/
def readHex (width : Nat) (s : Text) : Option (Char × Text) :=
  (ofHex? (s.take width)).map fun n => (Char.ofNat n, s.drop width)

/-- Read a code point behind a backslash. -/
def readEscape : Text → Option (Char × Text)
  | [] => none
  | c :: rest =>
      if c = 'n' then some ('\n', rest)
      else if c = 'r' then some ('\r', rest)
      else if c = 't' then some ('\t', rest)
      else if c = 'x' then readHex 2 rest
      else if c = 'u' then readHex 4 rest
      else if c = 'U' then readHex 8 rest
      else some (c, rest)

/-- Read a code point from quoted text. -/
def readQuotedChar : Text → Option (Char × Text)
  | [] => none
  | c :: rest => if c = backslash then readEscape rest else some (c, rest)

theorem readQuotedChar_backslash (rest : Text) :
    readQuotedChar (backslash :: rest) = readEscape rest := by
  rw [readQuotedChar, if_pos rfl]

theorem readHex_hex {width n : Nat} (positive : 0 < width) (fits : n < 16 ^ width)
    (rest : Text) : readHex width (hex width n ++ rest) = some (Char.ofNat n, rest) := by
  have size := length_hex positive fits
  rw [readHex, List.take_left' size, List.drop_left' size, ofHex?_hex]
  rfl

/-- Surrogates are no characters. -/
theorem toNat_cases (c : Char) :
    c.toNat < 0xd800 ∨ 0xdfff < c.toNat ∧ c.toNat < 0x110000 :=
  c.valid

theorem readQuotedChar_hexEscape (c : Char) (rest : Text) :
    readQuotedChar (hexEscape c ++ rest) = some (c, rest) := by
  have bound := toNat_cases c
  dsimp only [hexEscape]
  split_ifs with short middle
  · exact (@readHex_hex 2 _ (by decide) short rest).trans (by rw [Char.ofNat_toNat])
  · exact (@readHex_hex 4 _ (by decide) middle rest).trans (by rw [Char.ofNat_toNat])
  · exact (@readHex_hex 8 _ (by decide) (by omega) rest).trans (by rw [Char.ofNat_toNat])

/-- The marks are no letters that announce an escape. -/
theorem quoteMark_cases (s : Text) : quoteMark s = apostrophe ∨ quoteMark s = doubleQuote := by
  unfold quoteMark
  split
  · exact Or.inr rfl
  · exact Or.inl rfl

theorem readEscape_of_quoteMark (s rest : Text) :
    readEscape (quoteMark s :: rest) = some (quoteMark s, rest) := by
  rcases quoteMark_cases s with isApostrophe | isDoubleQuote
  · rw [isApostrophe]
    rfl
  · rw [isDoubleQuote]
    rfl

theorem readQuotedChar_quoteCharBy (printable : Char → Bool) (s : Text) (c : Char)
    (rest : Text) :
    readQuotedChar (quoteCharBy printable (quoteMark s) c ++ rest) = some (c, rest) := by
  unfold quoteCharBy
  split_ifs with isSpecial isNewline isReturn isTab isPlain
  · rw [List.cons_append, readQuotedChar_backslash]
    rcases Bool.or_eq_true_iff.mp isSpecial with isMark | isBackslash
    · rw [of_decide_eq_true isMark]
      exact readEscape_of_quoteMark s rest
    · rw [of_decide_eq_true isBackslash]
      rfl
  · rw [isNewline]
    rfl
  · rw [isReturn]
    rfl
  · rw [isTab]
    rfl
  · have notBackslash : c ≠ backslash := by
      rintro rfl
      simp at isSpecial
    exact if_neg notBackslash
  · exact readQuotedChar_hexEscape c rest

/-! ## Quoted texts are told apart -/

theorem quoteCharBy_ne_nil (printable : Char → Bool) (mark c : Char) :
    quoteCharBy printable mark c ≠ [] := by
  unfold quoteCharBy hexEscape
  dsimp only
  split_ifs <;> exact List.cons_ne_nil _ _

theorem flatMap_quoteCharBy_injective (printable : Char → Bool) (s : Text) {first second : Text}
    (same : first.flatMap (quoteCharBy printable (quoteMark s)) =
      second.flatMap (quoteCharBy printable (quoteMark s))) : first = second := by
  induction first generalizing second with
  | nil =>
      cases second with
      | nil => rfl
      | cons c second =>
          have empty := (List.append_eq_nil_iff.mp same.symm).1
          exact absurd empty (quoteCharBy_ne_nil printable _ c)
  | cons c first inductionHypothesis =>
      cases second with
      | nil =>
          have empty := (List.append_eq_nil_iff.mp same).1
          exact absurd empty (quoteCharBy_ne_nil printable _ c)
      | cons d second =>
          have read := congrArg readQuotedChar same
          rw [List.flatMap_cons, List.flatMap_cons, readQuotedChar_quoteCharBy,
            readQuotedChar_quoteCharBy] at read
          rcases Prod.mk.inj (Option.some.inj read) with ⟨rfl, restEq⟩
          rw [inductionHypothesis restEq]

/-- Quoted texts are equal only if the texts are. -/
theorem quotedBy_injective (printable : Char → Bool) :
    Function.Injective (quotedBy printable) := by
  intro first second same
  rcases List.cons_eq_cons.mp same with ⟨markEq, tailEq⟩
  rw [markEq] at tailEq
  exact flatMap_quoteCharBy_injective printable second (List.append_cancel_right tailEq)

/-! ## What stands in quoted text -/

/-- Whether the code point is a graphic one of ASCII. -/
def isGraphic (c : Char) : Bool :=
  '!' ≤ c && c ≤ '~'

theorem isGraphic_of_mem_hex {width n : Nat} {c : Char} (member : c ∈ hex width n) :
    isGraphic c = true := by
  rcases exists_digit_of_mem_hex member with ⟨digit, small, rfl⟩
  have all : ∀ digit < 16, isGraphic digit.digitChar = true := by decide
  exact all digit small

theorem isGraphic_of_mem_hexEscape {c d : Char} (member : d ∈ hexEscape c) :
    isGraphic d = true := by
  have letters : isGraphic backslash = true ∧ isGraphic 'x' = true ∧ isGraphic 'u' = true ∧
      isGraphic 'U' = true := by decide
  have escape {letter : Char} {width : Nat} (isLetter : isGraphic letter = true)
      (inEscape : d ∈ backslash :: letter :: hex width c.toNat) : isGraphic d = true := by
    rcases List.mem_cons.mp inEscape with rfl | inEscape
    · exact letters.1
    rcases List.mem_cons.mp inEscape with rfl | inDigits
    · exact isLetter
    · exact isGraphic_of_mem_hex inDigits
  dsimp only [hexEscape] at member
  split_ifs at member
  · exact escape letters.2.1 member
  · exact escape letters.2.2.1 member
  · exact escape letters.2.2.2 member

theorem isGraphic_quoteMark (s : Text) : isGraphic (quoteMark s) = true := by
  rcases quoteMark_cases s with isApostrophe | isDoubleQuote
  · rw [isApostrophe]
    decide
  · rw [isDoubleQuote]
    decide

/-- Any other code point stands in quoted text only for itself, as one that is printable and has
no escape of its own. -/
theorem printable_of_mem_quoteCharBy {printable : Char → Bool} {s : Text} {c d : Char}
    (notGraphic : isGraphic d = false) (member : d ∈ quoteCharBy printable (quoteMark s) c) :
    printable d = true ∧ d ≠ '\n' ∧ d ≠ '\r' ∧ d ≠ '\t' := by
  have notIn {s : Text} (graphic : s.all isGraphic = true) : d ∉ s := by
    intro inText
    rw [List.all_eq_true.mp graphic d inText] at notGraphic
    cases notGraphic
  unfold quoteCharBy at member
  split_ifs at member with isSpecial isNewline isReturn isTab isPlain
  · refine absurd member (notIn ?_)
    rw [List.all_cons, List.all_cons, Bool.and_eq_true, Bool.and_eq_true]
    refine ⟨by decide, ?_, rfl⟩
    rcases Bool.or_eq_true_iff.mp isSpecial with isMark | isBackslash
    · rw [of_decide_eq_true isMark]
      exact isGraphic_quoteMark s
    · rw [of_decide_eq_true isBackslash]
      decide
  · exact absurd member (notIn (by decide))
  · exact absurd member (notIn (by decide))
  · exact absurd member (notIn (by decide))
  · rcases List.mem_singleton.mp member with rfl
    exact ⟨isPlain, isNewline, isReturn, isTab⟩
  · exact absurd member (notIn (List.all_eq_true.mpr fun _ => isGraphic_of_mem_hexEscape))

theorem printable_of_mem_quotedBy {printable : Char → Bool} {s : Text} {d : Char}
    (notGraphic : isGraphic d = false) (member : d ∈ quotedBy printable s) :
    printable d = true ∧ d ≠ '\n' ∧ d ≠ '\r' ∧ d ≠ '\t' := by
  have notMark : d ≠ quoteMark s := by
    rintro rfl
    rw [isGraphic_quoteMark] at notGraphic
    cases notGraphic
  rcases List.mem_append.mp member with inFront | isMark
  · rcases List.mem_cons.mp inFront with isMark | inBody
    · exact absurd isMark notMark
    · rcases List.mem_flatMap.mp inBody with ⟨c, -, inChar⟩
      exact printable_of_mem_quoteCharBy notGraphic inChar
  · exact absurd (List.mem_singleton.mp isMark) notMark

theorem newline_notMem_hex (width n : Nat) : '\n' ∉ hex width n :=
  fun member => absurd (isGraphic_of_mem_hex member) (by decide)

/-- A line feed is escaped even where it counts as printable. -/
theorem newline_notMem_quotedBy (printable : Char → Bool) (s : Text) :
    '\n' ∉ quotedBy printable s :=
  fun member => (printable_of_mem_quotedBy (by decide) member).2.1 rfl

end Lunette.Text
