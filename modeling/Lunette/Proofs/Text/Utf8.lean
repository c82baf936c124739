import Lunette.Text.Utf8
import Mathlib.Tactic.SplitIfs

/-!
# Decoding inverts encoding

The bytes of a text are decoded as the text.  The first byte of a code point announces how many
bytes follow it and how the second one is bounded, and each further byte adds six bits, so the
argument goes through the four widths one by one.
-/

namespace Lunette.Text.Utf8

theorem toNat_toUInt8 {n : Nat} (fits : n < 0x100) : n.toUInt8.toNat = n :=
  UInt8.toNat_ofNat_of_lt fits

variable {bits low high more n m : Nat} {bytes rest : List UInt8}

theorem readMore_zero (bitsEq : bits = n) : readMore bits low high 0 rest = .ok (n, rest) := by
  rw [readMore, bitsEq]

/-- A byte between the bounds adds its six bits. -/
theorem readMore_tail (small : m < 0x40) (notBelow : low ≤ 0x80 + m) (notAbove : 0x80 + m ≤ high)
    (moreEq : readMore (bits * 0x40 + m) 0x80 0xbf more bytes = .ok (n, rest)) :
    readMore bits low high (more + 1) ((0x80 + m).toUInt8 :: bytes) = .ok (n, rest) := by
  have byteEq := @toNat_toUInt8 (0x80 + m) (by omega)
  rw [readMore, byteEq, if_pos ⟨notBelow, notAbove⟩, Nat.add_sub_cancel_left, moreEq]
  rfl

/-- The bytes begin with one that announces the others, and are read as the number, whatever
stands behind them. -/
def Reads (bytes : List UInt8) (n : Nat) : Prop :=
  ∃ first others bits low high, bytes = first :: others ∧
    Lead.ofByte? first = some ⟨others.length, bits, low, high⟩ ∧
    ∀ rest, readMore bits low high others.length (others ++ rest) = .ok (n, rest)

/-! ## The four widths -/

theorem reads_one (below : n < 0x80) : Reads [n.toUInt8] n := by
  have firstEq := @toNat_toUInt8 n (by omega)
  refine ⟨_, [], n, 0x80, 0xbf, rfl, ?_, fun _ => readMore_zero rfl⟩
  rw [Lead.ofByte?, firstEq]
  exact if_pos below

theorem reads_two (above : 0x80 ≤ n) (below : n < 0x800) :
    Reads [(0xc0 + n / 0x40).toUInt8, (0x80 + n % 0x40).toUInt8] n := by
  have firstEq := @toNat_toUInt8 (0xc0 + n / 0x40) (by omega)
  refine ⟨_, _, n / 0x40, 0x80, 0xbf, rfl, ?_, fun rest => ?_⟩
  · rw [Lead.ofByte?, firstEq, if_neg (by omega), if_neg (by omega), if_pos (by omega),
      Nat.add_sub_cancel_left]
    rfl
  · apply readMore_tail (by omega) (by omega) (by omega)
    exact readMore_zero (by omega)

theorem reads_three (above : 0x800 ≤ n) (below : n < 0x10000)
    (scalar : n < 0xd800 ∨ 0xdfff < n) :
    Reads [(0xe0 + n / 0x1000).toUInt8, (0x80 + n / 0x40 % 0x40).toUInt8,
      (0x80 + n % 0x40).toUInt8] n := by
  have firstEq := @toNat_toUInt8 (0xe0 + n / 0x1000) (by omega)
  refine ⟨_, _, n / 0x1000, if 0xe0 + n / 0x1000 = 0xe0 then 0xa0 else 0x80,
    if 0xe0 + n / 0x1000 = 0xed then 0x9f else 0xbf, rfl, ?_, fun rest => ?_⟩
  · rw [Lead.ofByte?, firstEq, if_neg (by omega), if_neg (by omega), if_neg (by omega),
      if_pos (by omega), Nat.add_sub_cancel_left]
    rfl
  · apply readMore_tail (by omega) (by split_ifs <;> omega) (by split_ifs <;> omega)
    apply readMore_tail (by omega) (by omega) (by omega)
    exact readMore_zero (by omega)

theorem reads_four (above : 0x10000 ≤ n) (below : n < 0x110000) :
    Reads [(0xf0 + n / 0x40000).toUInt8, (0x80 + n / 0x1000 % 0x40).toUInt8,
      (0x80 + n / 0x40 % 0x40).toUInt8, (0x80 + n % 0x40).toUInt8] n := by
  have firstEq := @toNat_toUInt8 (0xf0 + n / 0x40000) (by omega)
  refine ⟨_, _, n / 0x40000, if 0xf0 + n / 0x40000 = 0xf0 then 0x90 else 0x80,
    if 0xf0 + n / 0x40000 = 0xf4 then 0x8f else 0xbf, rfl, ?_, fun rest => ?_⟩
  · rw [Lead.ofByte?, firstEq, if_neg (by omega), if_neg (by omega), if_neg (by omega),
      if_neg (by omega), if_pos (by omega), Nat.add_sub_cancel_left]
    rfl
  · apply readMore_tail (by omega) (by split_ifs <;> omega) (by split_ifs <;> omega)
    apply readMore_tail (by omega) (by omega) (by omega)
    apply readMore_tail (by omega) (by omega) (by omega)
    exact readMore_zero (by omega)

/-- The bytes of a code point are read as it. -/
theorem reads_encodeChar (c : Char) : Reads (encodeChar c) c.toNat := by
  have scalar : c.toNat < 0xd800 ∨ 0xdfff < c.toNat ∧ c.toNat < 0x110000 := c.valid
  unfold encodeChar
  dsimp only
  split_ifs with one two three
  · exact reads_one one
  · exact reads_two (by omega) two
  · exact reads_three (by omega) three (by omega)
  · exact reads_four (by omega) (by omega)

/-! ## Whole texts -/

/-- Behind the bytes of a number the decoding goes on. -/
theorem Reads.exists_decodeFrom (reads : Reads bytes n) (position : Nat) (rest : List UInt8) :
    ∃ behind, decodeFrom position (bytes ++ rest) =
      (decodeFrom behind rest).map (Char.ofNat n :: ·) := by
  obtain ⟨first, others, bits, low, high, rfl, leadEq, readEq⟩ := reads
  refine ⟨position + others.length + 1, ?_⟩
  rw [List.cons_append, decodeFrom, leadEq]
  dsimp only
  split
  · rename_i foundEq
    rw [readEq] at foundEq
    cases foundEq
  · rename_i foundEq
    rw [readEq] at foundEq
    cases foundEq
    rfl

theorem decodeFrom_encode (position : Nat) (s : Text) :
    decodeFrom position (encode s) = .ok s := by
  induction s generalizing position with
  | nil =>
      change decodeFrom position [] = _
      rw [decodeFrom]
  | cons c s inductionHypothesis =>
      obtain ⟨behind, decodeEq⟩ := (reads_encodeChar c).exists_decodeFrom position (encode s)
      change decodeFrom position (encodeChar c ++ encode s) = _
      rw [decodeEq, inductionHypothesis behind, Char.ofNat_toNat]
      rfl

/-- The bytes of a text are decoded as the text. -/
theorem decode_encode (s : Text) : decode (encode s) = .ok s :=
  decodeFrom_encode 0 s

end Lunette.Text.Utf8
