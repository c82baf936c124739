import Lunette.Text
import Mathlib.Data.List.Basic

/-!
# Stretches are told where they end

A stretch of characters of one class ends at the first character of another class, so where
two texts are the same, so are the stretches that they begin with and what is left behind.
-/

namespace Lunette.Text

/-- The stretch of a class in front and what is left behind are told from the text. -/
theorem eq_of_append_of_all {p : Char → Bool} {front other back rest : Text}
    (all : ∀ c ∈ front, p c) (otherAll : ∀ c ∈ other, p c)
    (stops : ∀ c ∈ back.head?, p c = false) (otherStops : ∀ c ∈ rest.head?, p c = false)
    (same : front ++ back = other ++ rest) : front = other ∧ back = rest := by
  have noneBehind : ∀ {s : Text}, (∀ c ∈ s.head?, p c = false) → s.takeWhile p = [] := by
    intro s ends
    cases s with
    | nil => rfl
    | cons c s => rw [List.takeWhile_cons, if_neg (by simp [ends c rfl])]
  have frontEq := congrArg (List.takeWhile p) same
  rw [List.takeWhile_append_of_pos all, List.takeWhile_append_of_pos otherAll, noneBehind stops,
    noneBehind otherStops, List.append_nil, List.append_nil] at frontEq
  cases frontEq
  exact ⟨rfl, List.append_cancel_left same⟩

/-- Where a character ends a stretch without it, the stretch and what follows are told. -/
theorem eq_of_append_cons {c : Char} {front other back rest : Text} (free : c ∉ front)
    (otherFree : c ∉ other) (same : front ++ c :: back = other ++ c :: rest) :
    front = other ∧ back = rest := by
  have isOther : ∀ {s : Text}, c ∉ s → ∀ d ∈ s, d != c := fun free d member =>
    bne_iff_ne.mpr fun isLast => free (isLast ▸ member)
  have stops : ∀ {s : Text}, ∀ d ∈ (c :: s).head?, (d != c) = false := by simp
  rcases eq_of_append_of_all (isOther free) (isOther otherFree) stops stops same with
    ⟨frontEq, backEq⟩
  exact ⟨frontEq, (List.cons.inj backEq).2⟩

/-- The number of characters in front of the first other one is told. -/
theorem eq_of_replicate_append {c : Char} {count other : Nat} {back rest : Text}
    (stops : back.head? ≠ some c) (otherStops : rest.head? ≠ some c)
    (same : List.replicate count c ++ back = List.replicate other c ++ rest) :
    count = other ∧ back = rest := by
  have all : ∀ n, ∀ d ∈ List.replicate n c, d == c := fun n d member =>
    beq_iff_eq.mpr (List.eq_of_mem_replicate member)
  have isOther : ∀ {s : Text}, s.head? ≠ some c → ∀ d ∈ s.head?, (d == c) = false :=
    fun differs d first => beq_eq_false_iff_ne.mpr fun isFirst => differs (isFirst ▸ first)
  rcases eq_of_append_of_all (all count) (all other) (isOther stops) (isOther otherStops) same
    with ⟨frontEq, backEq⟩
  have lengthEq := congrArg List.length frontEq
  rw [List.length_replicate, List.length_replicate] at lengthEq
  exact ⟨lengthEq, backEq⟩

end Lunette.Text
