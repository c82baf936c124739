import Lunette.Proofs.Token.Scan

/-!
# Laying out lexemes

Lexemes are laid out as a text with blanks in front of each, between any two and behind the
last.  Blanks are skipped in scanning, and no lexeme begins with a blank or goes on into one, so
the longest lexeme on offer in front of a blank is the one that was laid out.
-/

namespace Lunette

namespace Lexeme

variable {c : Char} {s rest : Text} {lexeme : Lexeme}

/-- The lexemes as a text, with the gap of each index in front of the lexeme of that index and
one more gap behind the last one. -/
def layOut (gaps : Nat → Text) : List Lexeme → Text
  | [] => gaps 0
  | lexeme :: lexemes => gaps 0 ++ lexeme.spelling ++ layOut (fun i => gaps (i + 1)) lexemes

/-- The gaps are blank, and those between two lexemes are not empty. -/
structure Separates (gaps : Nat → Text) (lexemes : List Lexeme) : Prop where
  blank : ∀ i, ∀ c ∈ gaps i, isBlank c = true
  apart : ∀ i, 0 < i → i < lexemes.length → gaps i ≠ []

/-! ## Lexemes in front of blanks -/

theorem cut_of_isBlank (blank : isBlank c = true) : cut c s = .error (.unexpectedCharacter c) := by
  rcases isBlank_cases blank with rfl | rfl | rfl | rfl <;> rfl

/-- A lexeme does not begin with a blank. -/
theorem Offers.isBlank_eq_false (offers : Offers (c :: s) lexeme rest) : isBlank c = false := by
  rcases offers.exists_cut with ⟨found, after, tail, cutEq, -⟩
  apply Bool.eq_false_iff.mpr
  intro blank
  rw [cut_of_isBlank blank] at cutEq
  cases cutEq

/-- A lexeme on offer in front of a blank is cut as it is. -/
theorem Offers.cut_eq_ok (offers : Offers (c :: s) lexeme rest)
    (ends : ∀ d ∈ rest.head?, isBlank d = true) : cut c s = .ok (lexeme, rest) := by
  rcases offers.exists_cut with ⟨found, after, tail, cutEq, goesOn⟩
  have textEq := (cut_spelling_append cutEq).symm.trans offers.split
  rw [goesOn.spelling, List.append_assoc] at textEq
  have restEq := List.append_cancel_left textEq
  cases tail with
  | nil =>
      rw [cutEq, goesOn.same rfl, ← restEq]
      rfl
  | cons d tail =>
      have solid := goesOn.solid d List.mem_cons_self
      rw [ends d (by rw [← restEq]; rfl)] at solid
      cases solid

theorem Valid.spelling_ne_nil (valid : lexeme.Valid) : lexeme.spelling ≠ [] := by
  cases valid with
  | mark listed =>
      have noEmpty : ∀ lexeme ∈ marks, lexeme.spelling ≠ [] := by decide
      exact noEmpty _ listed
  | string _ => simp [spelling]
  | number digits =>
      apply Lexeme.spelling_ne_nil
      rintro rfl
      cases digits
  | reserved listed =>
      apply Lexeme.spelling_ne_nil
      rintro rfl
      cases isWord_of_reserved listed
  | identifier word _ =>
      apply Lexeme.spelling_ne_nil
      rintro rfl
      cases word

end Lexeme

/-! ## Blanks are skipped -/

namespace Token

open Lexeme

theorem scanFrom_append_of_isBlank {gap s : Text} (place : Place)
    (blank : ∀ c ∈ gap, isBlank c = true) :
    scanFrom place (gap ++ s) = scanFrom (place.past gap) s := by
  induction gap generalizing place with
  | nil => rfl
  | cons c gap inductionHypothesis =>
      rw [List.forall_mem_cons] at blank
      rw [List.cons_append, scanFrom_of_isBlank blank.1, inductionHypothesis _ blank.2]
      rfl

end Token

end Lunette
