import Lunette.Text.LineEndings
import Mathlib.Data.List.Basic

/-!
# Texts with one kind of line ending

Unifying the line endings of a text does not go character by character, because a carriage
return with a line feed is one line ending.  It does go piece by piece where no piece begins
with a line feed, and it keeps the stretches of every class that does not tell carriage returns
from line feeds.
-/

namespace Lunette.Text

variable {c : Char} {s t : Text}

/-- The character that stands for a character by itself. -/
def unifiedChar (c : Char) : Char :=
  if c = '\r' then '\n' else c

theorem unifiedChar_of_ne (notReturn : c ≠ '\r') : unifiedChar c = c :=
  if_neg notReturn

/-- The first character goes by itself, unless it is a carriage return in front of a line
feed. -/
theorem unifyLineEndings_cons (alone : c = '\r' → s.head? ≠ some '\n') :
    unifyLineEndings (c :: s) = unifiedChar c :: unifyLineEndings s := by
  rw [unifyLineEndings, unifiedChar]
  rintro rest rfl rfl
  exact alone rfl rfl

theorem unifyLineEndings_cons_of_ne (notReturn : c ≠ '\r') :
    unifyLineEndings (c :: s) = c :: unifyLineEndings s := by
  rw [unifyLineEndings_cons fun isReturn => absurd isReturn notReturn,
    unifiedChar_of_ne notReturn]

/-- A carriage return adds nothing to the line feed behind it. -/
theorem unifyLineEndings_return_cons (isFeed : s.head? = some '\n') :
    unifyLineEndings ('\r' :: s) = unifyLineEndings s := by
  obtain ⟨rest, rfl⟩ := List.head?_eq_some_iff.mp isFeed
  rw [unifyLineEndings, unifyLineEndings_cons_of_ne (by decide)]

/-- A text is made of line endings of two characters and of characters by themselves. -/
@[elab_as_elim]
theorem lineEndings_induction {Holds : Text → Prop} (s : Text) (nil : Holds [])
    (pair : ∀ s, Holds s → Holds ('\r' :: '\n' :: s))
    (single : ∀ c s, (c = '\r' → s.head? ≠ some '\n') → Holds s → Holds (c :: s)) : Holds s := by
  induction s using unifyLineEndings.induct with
  | case1 s inductionHypothesis => exact pair s inductionHypothesis
  | case2 c s notBoth inductionHypothesis =>
      apply single c s _ inductionHypothesis
      rintro rfl isFeed
      obtain ⟨rest, rfl⟩ := List.head?_eq_some_iff.mp isFeed
      exact notBoth rest rfl rfl
  | case3 => exact nil

theorem head?_unifyLineEndings (s : Text) :
    (unifyLineEndings s).head? = s.head?.map unifiedChar := by
  induction s using lineEndings_induction with
  | nil => rfl
  | pair s _ => rfl
  | single c s alone _ => rw [unifyLineEndings_cons alone, List.head?_cons, List.head?_cons,
      Option.map_some]

/-- A line ending is not cut in two in front of anything but a line feed. -/
theorem unifyLineEndings_append (s : Text) (whole : t.head? ≠ some '\n') :
    unifyLineEndings (s ++ t) = unifyLineEndings s ++ unifyLineEndings t := by
  induction s using lineEndings_induction with
  | nil => rfl
  | pair s inductionHypothesis =>
      rw [List.cons_append, List.cons_append, unifyLineEndings, unifyLineEndings,
        inductionHypothesis, List.cons_append]
  | single c s alone inductionHypothesis =>
      have aloneBefore : c = '\r' → (s ++ t).head? ≠ some '\n' := by
        cases s with
        | nil => exact fun _ => whole
        | cons d s => exact alone
      rw [List.cons_append, unifyLineEndings_cons aloneBefore, unifyLineEndings_cons alone,
        inductionHypothesis, List.cons_append]

/-- The stretches of a class are kept if the class does not tell carriage returns from line
feeds. -/
theorem stretch_unifyLineEndings {p : Char → Bool} (same : p '\r' = p '\n') (s : Text) :
    (unifyLineEndings s).takeWhile p = unifyLineEndings (s.takeWhile p) ∧
      (unifyLineEndings s).dropWhile p = unifyLineEndings (s.dropWhile p) := by
  have sameChar : ∀ c, p (unifiedChar c) = p c := by
    intro c
    unfold unifiedChar
    split
    · rename_i isReturn
      rw [isReturn, same]
    · rfl
  induction s using lineEndings_induction with
  | nil => exact ⟨rfl, rfl⟩
  | pair s inductionHypothesis =>
      by_cases inside : p '\n' = true
      · simp [unifyLineEndings, same, inside, inductionHypothesis]
      · simp [unifyLineEndings, same, inside]
  | single c s alone inductionHypothesis =>
      by_cases inside : p c = true
      · have aloneInside : c = '\r' → (s.takeWhile p).head? ≠ some '\n' := by
          intro isReturn isFeed
          cases s with
          | nil => cases isFeed
          | cons d s =>
              rw [List.takeWhile_cons] at isFeed
              split at isFeed
              · exact alone isReturn isFeed
              · cases isFeed
        simp [unifyLineEndings_cons alone, sameChar, inside, unifyLineEndings_cons aloneInside,
          inductionHypothesis]
      · simp [unifyLineEndings_cons alone, sameChar, inside, unifyLineEndings]

/-- Every carriage return of the text has a line feed behind it. -/
def Paired (s : Text) : Prop :=
  ∀ i : Nat, s[i]? = some '\r' → s[i + 1]? = some '\n'

instance : DecidablePred Paired := fun s =>
  decidable_of_iff (∀ i < s.length, s[i]? = some '\r' → s[i + 1]? = some '\n')
    ⟨fun paired i isReturn => paired i (List.getElem?_eq_some_iff.mp isReturn).1 isReturn,
      fun paired i _ => paired i⟩

theorem Paired.tail (paired : Paired (c :: s)) : Paired s :=
  fun i => paired (i + 1)

/-- A line ending is not cut in two in front of anything but a line feed. -/
theorem Paired.take (paired : Paired s) {i : Nat} (whole : s[i]? ≠ some '\n') :
    Paired (s.take i) := by
  intro j isReturn
  have inside := (List.getElem?_eq_some_iff.mp isReturn).1
  rw [List.getElem?_take_of_lt (by rw [List.length_take] at inside; omega)] at isReturn
  have isFeed := paired j isReturn
  have notLast : j + 1 ≠ i := by
    rintro rfl
    exact whole isFeed
  rw [List.getElem?_take_of_lt (by rw [List.length_take] at inside; omega), isFeed]

end Lunette.Text
