import Lunette.Proofs.Lexeme.Layout
import Lunette.Proofs.Token.Concatenation

/-!
# Which lexemes need a blank between them

Lexemes may be laid out without any blank between them, and most of them are still found again:
a mark ends a word, a letter ends a number, and a quote ends anything.  Five pairs of lexemes
clash, because the second one begins with a character that the first one fuses with.  A layout
is scanned as the lexemes it was made of exactly if blanks stand between those pairs.
-/

namespace Lunette

namespace Lexeme

variable {lexeme first second : Lexeme} {c d : Char} {s t front rest : Text}

/-- The first lexeme would be cut differently with the second one right behind it. -/
def Clashes (first second : Lexeme) : Prop :=
  first.kind.isWord = true ∧ (second.kind.isWord = true ∨ second.kind = .number) ∨
    first.kind = .number ∧ second.kind = .number ∨
    first.kind = .assign ∧ (second.kind = .assign ∨ second.kind = .equal)

/-- Between neighbours that clash the gap is not empty. -/
def Parts (gaps : Nat → Text) (lexemes : List Lexeme) : Prop :=
  ∀ i first second, lexemes[i]? = some first → lexemes[i + 1]? = some second →
    first.Clashes second → gaps (i + 1) ≠ []

/-! ## The first character tells the kind -/

/-- What the first character of a lexeme tells of the kind of the lexeme. -/
structure Heads (d : Char) (kind : Kind) : Prop where
  wordPart : isWordPart d = true ↔ kind.isWord = true ∨ kind = .number
  digit : d.isDigit = true ↔ kind = .number
  equals : d = '=' ↔ kind = .assign ∨ kind = .equal

theorem heads_of_mark (listed : lexeme ∈ marks) (headEq : d ∈ lexeme.spelling.head?) :
    Heads d lexeme.kind := by
  have headIs : lexeme.spelling.headD ' ' = d := by
    rw [List.headD_eq_head?_getD, Option.mem_def.mp headEq, Option.getD_some]
  have wordPart : ∀ lexeme ∈ marks, isWordPart (lexeme.spelling.headD ' ') = true ↔
      lexeme.kind.isWord = true ∨ lexeme.kind = .number := by decide
  have digit : ∀ lexeme ∈ marks, (lexeme.spelling.headD ' ').isDigit = true ↔
      lexeme.kind = .number := by decide
  have equals : ∀ lexeme ∈ marks, lexeme.spelling.headD ' ' = '=' ↔
      lexeme.kind = .assign ∨ lexeme.kind = .equal := by decide
  rw [← headIs]
  exact ⟨wordPart _ listed, digit _ listed, equals _ listed⟩

theorem ne_equals_of_isWordPart (part : isWordPart d = true) : d ≠ '=' := by
  rintro rfl
  cases part

theorem heads_of_number (digit : d.isDigit = true) : Heads d .number where
  wordPart := iff_of_true (isWordPart_of_isDigit digit) (Or.inr rfl)
  digit := iff_of_true digit rfl
  equals := iff_of_false (ne_equals_of_isWordPart (isWordPart_of_isDigit digit)) nofun

theorem heads_of_word {kind : Kind} (isWord : kind.isWord = true) (starts : isWordStart d = true) :
    Heads d kind where
  wordPart := iff_of_true (isWordPart_of_isWordStart starts) (Or.inl isWord)
  digit := by
    apply iff_of_false (not_isDigit_of_isWordStart starts)
    rintro rfl
    cases isWord
  equals := by
    apply iff_of_false (ne_equals_of_isWordPart (isWordPart_of_isWordStart starts))
    rintro (rfl | rfl) <;> cases isWord

theorem heads_of_quote : Heads Text.doubleQuote .string :=
  ⟨by decide, by decide, by decide⟩

theorem Valid.heads (valid : lexeme.Valid) (headEq : d ∈ lexeme.spelling.head?) :
    Heads d lexeme.kind := by
  cases valid with
  | mark listed => exact heads_of_mark listed headEq
  | string _ =>
      cases headEq
      exact heads_of_quote
  | @number text digits =>
      cases text with
      | nil => cases digits
      | cons first others =>
          cases headEq
          exact heads_of_number (Bool.and_eq_true_iff.mp digits).1
  | @reserved text kind listed =>
      have word := isWord_of_reserved listed
      have kindEq := ofWord_of_reserved listed
      rw [spelling_of_ne_string (kindEq ▸ Kind.ofWord_ne_string _)] at headEq
      cases text with
      | nil => cases word
      | cons first others =>
          cases headEq
          exact heads_of_word (kindEq ▸ Kind.isWord_ofWord _) (Bool.and_eq_true_iff.mp word).1
  | @identifier text word _ =>
      cases text with
      | nil => cases word
      | cons first others =>
          cases headEq
          exact heads_of_word rfl (Bool.and_eq_true_iff.mp word).1

/-- A lexeme fuses with the first character of another one exactly if the two clash. -/
theorem Valid.fuses_iff_clashes (valid : second.Valid) (headEq : d ∈ second.spelling.head?) :
    first.Fuses d ↔ first.Clashes second := by
  have heads := valid.heads headEq
  rw [Fuses, heads.wordPart, heads.digit, heads.equals, Clashes]

theorem not_fuses_of_isBlank (blank : isBlank d = true) : ¬ first.Fuses d := by
  have notPart : ¬ isWordPart d = true := by
    intro part
    rw [isBlank_eq_false_of_isWordPart part] at blank
    cases blank
  rintro (⟨-, part⟩ | ⟨-, digit⟩ | ⟨-, rfl⟩)
  · exact notPart part
  · exact notPart (isWordPart_of_isDigit digit)
  · cases blank

/-! ## Lexemes in a layout -/

/-- A lexeme is cut as it is exactly in front of what it does not fuse with. -/
theorem Valid.cut_eq_ok_iff_apart (valid : lexeme.Valid)
    (spellingEq : lexeme.spelling = c :: front) :
    cut c (front ++ t) = .ok (lexeme, t) ↔ lexeme.Apart t := by
  constructor
  · intro cutEq
    exact (cut_eq_ok_iff.mp cutEq).apart
  · intro apart
    have offers : Offers (c :: front) lexeme [] :=
      ⟨valid, by rw [spellingEq, List.append_nil]⟩
    have alone : cut c front = .ok (lexeme, []) := offers.cut_eq_ok nofun
    exact cut_append alone fun _ => apart

/-- What a lexeme has behind it in a layout is a gap, or the next lexeme where the gap is
empty. -/
theorem apart_layOut_iff {gaps : Nat → Text} {lexemes : List Lexeme}
    (valid : ∀ lexeme ∈ lexemes, lexeme.Valid) (blank : ∀ c ∈ gaps 0, isBlank c = true) :
    first.Apart (layOut gaps lexemes) ↔
      ∀ second, lexemes.head? = some second → first.Clashes second → gaps 0 ≠ [] := by
  cases gapEq : gaps 0 with
  | cons c gap =>
      have headEq : (layOut gaps lexemes).head? = some c := by
        cases lexemes <;> simp [layOut, gapEq]
      have isBlank : isBlank c = true := blank c (by rw [gapEq]; exact List.mem_cons_self)
      apply iff_of_true
      · intro d ahead
        rw [headEq] at ahead
        cases ahead
        exact not_fuses_of_isBlank isBlank
      · intro _ _ _
        exact List.cons_ne_nil c gap
  | nil =>
      cases lexemes with
      | nil =>
          rw [layOut, gapEq]
          apply iff_of_true
          · intro d ahead
            cases ahead
          · intro second isHead
            cases isHead
      | cons second others =>
          rw [List.forall_mem_cons] at valid
          obtain ⟨d, tail, spellingEq⟩ := List.exists_cons_of_ne_nil valid.1.spelling_ne_nil
          have headEq : (layOut gaps (second :: others)).head? = some d := by
            rw [layOut, gapEq, spellingEq]
            rfl
          have fusesIff : first.Fuses d ↔ first.Clashes second :=
            valid.1.fuses_iff_clashes (by rw [spellingEq]; rfl)
          rw [Apart, headEq]
          constructor
          · rintro apart _ ⟨⟩ clashes
            exact absurd (fusesIff.mpr clashes) (apart d rfl)
          · rintro parts _ ⟨⟩ fuses
            exact parts second rfl (fusesIff.mp fuses) rfl

theorem parts_nil (gaps : Nat → Text) : Parts gaps [] :=
  nofun

theorem parts_cons_iff {gaps : Nat → Text} {lexemes : List Lexeme} :
    Parts gaps (first :: lexemes) ↔
      (∀ second, lexemes.head? = some second → first.Clashes second → gaps 1 ≠ []) ∧
        Parts (fun i => gaps (i + 1)) lexemes := by
  constructor
  · intro parts
    constructor
    · intro second headEq
      rw [List.head?_eq_getElem?] at headEq
      exact parts 0 first second rfl headEq
    · intro i
      exact parts (i + 1)
  · rintro ⟨here, behind⟩ i left right leftEq rightEq
    cases i with
    | zero =>
        cases leftEq
        rw [List.getElem?_cons_succ, ← List.head?_eq_getElem?] at rightEq
        exact here right rightEq
    | succ i => exact behind i left right leftEq rightEq

/-- Gaps that are not empty anywhere part all lexemes. -/
theorem Separates.parts {gaps : Nat → Text} {lexemes : List Lexeme}
    (separates : Separates gaps lexemes) : Parts gaps lexemes := by
  intro i _ _ _ rightEq _
  exact separates.apart (i + 1) (Nat.succ_pos i) (List.getElem?_eq_some_iff.mp rightEq).1

end Lexeme

namespace Token

open Lexeme

variable {place : Place} {lexeme : Lexeme} {lexemes : List Lexeme} {s t : Text}

/-- Scanning gives the lexemes and the end marker, and nothing else. -/
def Yields (place : Place) (s : Text) (lexemes : List Lexeme) : Prop :=
  ∃ body ending, scanFrom place s = .ok (body ++ [endMarker ending]) ∧
    body.map toLexeme = lexemes

theorem yields_nil (place : Place) : Yields place [] [] :=
  ⟨[], place, scanFrom_nil, rfl⟩

theorem yields_append_of_isBlank {gap : Text} (blank : ∀ c ∈ gap, isBlank c = true) :
    Yields place (gap ++ s) lexemes ↔ Yields (place.past gap) s lexemes := by
  rw [Yields, scanFrom_append_of_isBlank place blank, Yields]

/-- A lexeme is found again exactly if it does not fuse with the text behind it, which is then
scanned next. -/
theorem yields_spelling_append_iff (valid : lexeme.Valid) :
    Yields place (lexeme.spelling ++ t) (lexeme :: lexemes) ↔
      lexeme.Apart t ∧ Yields (place.past lexeme.spelling) t lexemes := by
  obtain ⟨c, front, spellingEq⟩ := List.exists_cons_of_ne_nil valid.spelling_ne_nil
  have textEq : lexeme.spelling ++ t = c :: (front ++ t) := by rw [spellingEq, List.cons_append]
  have solid : isBlank c = false := Offers.isBlank_eq_false ⟨valid, textEq.symm⟩
  rw [← valid.cut_eq_ok_iff_apart spellingEq, textEq]
  constructor
  · rintro ⟨body, ending, scanEq, bodyEq⟩
    cases cutEq : cut c (front ++ t) with
    | error fault =>
        rw [scanFrom_of_cut_error solid cutEq] at scanEq
        cases scanEq
    | ok found =>
        obtain ⟨other, rest⟩ := found
        obtain ⟨others, rfl, restEq⟩ := scanFrom_cons_eq_ok solid cutEq scanEq
        obtain ⟨rfl, othersEq⟩ := List.cons_eq_cons.mp bodyEq
        have sameText := textEq.trans (cut_spelling_append cutEq)
        cases List.append_cancel_left sameText
        exact ⟨rfl, others, ending, restEq, othersEq⟩
  · rintro ⟨cutEq, others, ending, restEq, othersEq⟩
    refine ⟨ofLexeme lexeme place :: others, ending, ?_, congrArg (lexeme :: ·) othersEq⟩
    rw [scanFrom_of_cut_ok solid cutEq, restEq]
    rfl

/-- A layout is scanned as its lexemes exactly if blanks stand between those that clash. -/
theorem yields_layOut_iff {gaps : Nat → Text} (valid : ∀ lexeme ∈ lexemes, lexeme.Valid)
    (blank : ∀ i, ∀ c ∈ gaps i, isBlank c = true) :
    Yields place (layOut gaps lexemes) lexemes ↔ Parts gaps lexemes := by
  induction lexemes generalizing gaps place with
  | nil =>
      rw [layOut, ← List.append_nil (gaps 0), yields_append_of_isBlank (blank 0)]
      exact iff_of_true (yields_nil _) (parts_nil gaps)
  | cons lexeme lexemes inductionHypothesis =>
      rw [List.forall_mem_cons] at valid
      have behind : ∀ i, ∀ c ∈ gaps (i + 1), isBlank c = true := fun i => blank (i + 1)
      rw [layOut, List.append_assoc, yields_append_of_isBlank (blank 0),
        yields_spelling_append_iff valid.1, inductionHypothesis valid.2 behind,
        apart_layOut_iff valid.2 (behind 0), parts_cons_iff]

/-- Scanning a layout with blanks between all lexemes gives the lexemes back. -/
theorem scanFrom_layOut {gaps : Nat → Text} (place : Place)
    (valid : ∀ lexeme ∈ lexemes, lexeme.Valid) (separates : Separates gaps lexemes) :
    Yields place (layOut gaps lexemes) lexemes :=
  (yields_layOut_iff valid separates.blank).mpr separates.parts

/-- Lexemes that are laid out with gaps of any blanks are scanned as these lexemes, with the end
marker behind them, exactly if the gap between any two that clash is not empty. -/
theorem scan_layOut_iff {gaps : Nat → Text} (valid : ∀ lexeme ∈ lexemes, lexeme.Valid)
    (blank : ∀ i, ∀ c ∈ gaps i, isBlank c = true) :
    (∃ tokens, scan (layOut gaps lexemes) = .ok tokens ∧
        tokens.map toLexeme = lexemes ++ [⟨.endOfInput, []⟩]) ↔ Parts gaps lexemes := by
  rw [← @yields_layOut_iff .start _ _ valid blank]
  constructor
  · rintro ⟨tokens, scanEq, tokensEq⟩
    obtain ⟨body, ending, rfl, -⟩ := scanFrom_eq_ok scanEq
    rw [List.map_append] at tokensEq
    exact ⟨body, ending, scanEq, (List.append_inj' tokensEq rfl).1⟩
  · rintro ⟨body, ending, scanEq, rfl⟩
    exact ⟨body ++ [endMarker ending], scanEq, List.map_append⟩

/-- A number, a word and two signs, of which only the signs clash. -/
def touchy : List Lexeme :=
  [⟨.number, ['1', '2']⟩, ⟨.identifier, ['a', 'b']⟩, ⟨.assign, ['=']⟩, ⟨.equal, ['=', '=']⟩]

/-- A gap in front of the fourth lexeme only. -/
def fourthGap (gap : Text) (i : Nat) : Text :=
  if i = 3 then gap else []

theorem scan_layOut_touchy :
    (∀ lexeme ∈ touchy, lexeme.Valid) ∧
      (∀ gap ∈ [[], ['\t']], ∀ i, ∀ c ∈ fourthGap gap i, isBlank c = true) ∧
      (∃ tokens, scan "12ab=\t==".toList = .ok tokens ∧
        tokens.map toLexeme = touchy ++ [⟨.endOfInput, []⟩]) ∧
      ¬ ∃ tokens, scan "12ab===".toList = .ok tokens ∧
        tokens.map toLexeme = touchy ++ [⟨.endOfInput, []⟩] := by
  have valid : ∀ lexeme ∈ touchy, lexeme.Valid := by
    simp only [touchy, List.forall_mem_cons]
    exact ⟨.number (by decide), .identifier (by decide) (by decide), .mark (by decide),
      .mark (by decide), List.forall_mem_nil _⟩
  have blank : ∀ gap ∈ [[], ['\t']], ∀ i, ∀ c ∈ fourthGap gap i, isBlank c = true := by
    intro gap member i
    unfold fourthGap
    split
    · have allBlank : ∀ gap ∈ [[], ['\t']], gap.all isBlank = true := by decide
      exact List.all_eq_true.mp (allBlank gap member)
    · exact List.forall_mem_nil _
  have parts : Parts (fourthGap ['\t']) touchy := by
    simp only [touchy, parts_cons_iff]
    simp [Clashes, Kind.isWord, Kind.reservedWords, fourthGap, parts_nil]
  have notParts : ¬ Parts (fourthGap []) touchy := by
    intro parts
    exact parts 2 _ _ rfl rfl (Or.inr (Or.inr ⟨rfl, Or.inr rfl⟩)) rfl
  refine ⟨valid, blank, ?_, ?_⟩
  · exact (scan_layOut_iff valid (blank ['\t'] (by decide))).mpr parts
  · exact fun found => notParts ((scan_layOut_iff valid (blank [] (by decide))).mp found)

end Token

end Lunette
