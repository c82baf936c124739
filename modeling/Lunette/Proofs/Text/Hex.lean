import Lunette.Text
import Mathlib.Algebra.Group.Nat.Defs

/-!
# Hexadecimal digits are read back

A number that is written in hexadecimal digits is read back from them, whatever zeros stand
in front, and a number that fits a width is written with exactly that many digits.
-/

namespace Lunette.Text

/-- The number of a hexadecimal digit, in small or in capital letters. -/
def hexDigit? (c : Char) : Option Nat :=
  if '0' ≤ c ∧ c ≤ '9' then some (c.toNat - '0'.toNat)
  else if 'a' ≤ c ∧ c ≤ 'f' then some (c.toNat - 'a'.toNat + 10)
  else if 'A' ≤ c ∧ c ≤ 'F' then some (c.toNat - 'A'.toNat + 10)
  else none

/-- The number that the digits stand for behind those of `n`. -/
def ofHexBehind? (n : Nat) : Text → Option Nat
  | [] => some n
  | c :: digits => (hexDigit? c).bind fun digit => ofHexBehind? (16 * n + digit) digits

/-- The number that hexadecimal digits stand for. -/
def ofHex? (digits : Text) : Option Nat :=
  ofHexBehind? 0 digits

theorem hexDigit?_digitChar {n : Nat} (small : n < 16) : hexDigit? n.digitChar = some n := by
  have all : ∀ n < 16, hexDigit? n.digitChar = some n := by decide
  exact all n small

theorem ofHexBehind?_append (n : Nat) (front back : Text) :
    ofHexBehind? n (front ++ back) = (ofHexBehind? n front).bind (ofHexBehind? · back) := by
  induction front generalizing n with
  | nil => rfl
  | cons c front inductionHypothesis =>
      rw [List.cons_append, ofHexBehind?, ofHexBehind?, Option.bind_assoc]
      simp only [inductionHypothesis]

theorem ofHexBehind?_digitChar {digit : Nat} (n : Nat) (small : digit < 16) :
    ofHexBehind? n [digit.digitChar] = some (16 * n + digit) := by
  rw [ofHexBehind?, hexDigit?_digitChar small]
  rfl

theorem ofHex?_toDigits (n : Nat) : ofHex? (Nat.toDigits 16 n) = some n := by
  induction n using Nat.strongRecOn with
  | ind n inductionHypothesis =>
      rw [Nat.toDigits_eq_if (by decide)]
      by_cases small : n < 16
      · rw [if_pos small, ofHex?, ofHexBehind?_digitChar _ small, Nat.mul_zero, Nat.zero_add]
      · have front := inductionHypothesis (n / 16) (by omega)
        rw [ofHex?] at front
        rw [if_neg small, ofHex?, ofHexBehind?_append, front, Option.bind_some,
          ofHexBehind?_digitChar _ (Nat.mod_lt _ (by decide)), Nat.div_add_mod]

/-- Zeros in front do not count. -/
theorem ofHex?_replicate_append (zeros : Nat) (digits : Text) :
    ofHex? (List.replicate zeros '0' ++ digits) = ofHex? digits := by
  induction zeros with
  | zero => rfl
  | succ zeros inductionHypothesis => exact inductionHypothesis

theorem ofHex?_hex (width n : Nat) : ofHex? (hex width n) = some n := by
  dsimp only [hex]
  rw [ofHex?_replicate_append, ofHex?_toDigits]

theorem exists_digit_of_mem_toDigits {n : Nat} {c : Char} (member : c ∈ Nat.toDigits 16 n) :
    ∃ digit < 16, c = digit.digitChar := by
  induction n using Nat.strongRecOn with
  | ind n inductionHypothesis =>
      rw [Nat.toDigits_eq_if (by decide)] at member
      split at member
      · rename_i small
        exact ⟨n, small, List.mem_singleton.mp member⟩
      · rename_i large
        rcases List.mem_append.mp member with inFront | isLast
        · exact inductionHypothesis (n / 16) (by omega) inFront
        · exact ⟨n % 16, Nat.mod_lt _ (by decide), List.mem_singleton.mp isLast⟩

/-- Only hexadecimal digits are written. -/
theorem exists_digit_of_mem_hex {width n : Nat} {c : Char} (member : c ∈ hex width n) :
    ∃ digit < 16, c = digit.digitChar := by
  dsimp only [hex] at member
  rcases List.mem_append.mp member with isZero | inDigits
  · exact ⟨0, by decide, List.eq_of_mem_replicate isZero⟩
  · exact exists_digit_of_mem_toDigits inDigits

/-- A number that fits the width has as many digits. -/
theorem length_hex {width n : Nat} (positive : 0 < width) (fits : n < 16 ^ width) :
    (hex width n).length = width := by
  have noMore := (Nat.length_toDigits_le_iff (by decide) positive).mpr fits
  rw [hex, List.length_append, List.length_replicate]
  omega

end Lunette.Text
