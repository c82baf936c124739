import Lunette.Text

/-!
# UTF-8

Files and standard input hold bytes.  Decoding is strict: every code point has to stand in
its shortest form, surrogates have no form, and the first stretch of bytes that is not the
form of a code point is reported with the reason why it is none.
-/

namespace Lunette.Text.Utf8

/-- The bytes of one code point. -/
def encodeChar (c : Char) : List UInt8 :=
  let n := c.toNat
  if n < 0x80 then [n.toUInt8]
  else if n < 0x800 then [(0xc0 + n / 0x40).toUInt8, (0x80 + n % 0x40).toUInt8]
  else if n < 0x10000 then
    [(0xe0 + n / 0x1000).toUInt8, (0x80 + n / 0x40 % 0x40).toUInt8, (0x80 + n % 0x40).toUInt8]
  else
    [(0xf0 + n / 0x40000).toUInt8, (0x80 + n / 0x1000 % 0x40).toUInt8,
     (0x80 + n / 0x40 % 0x40).toUInt8, (0x80 + n % 0x40).toUInt8]

/-- The bytes of a text. -/
def encode (s : Text) : List UInt8 :=
  s.flatMap encodeChar

/-- Why bytes are not the form of a code point. -/
inductive Reason where
  | invalidStart
  | invalidContinuation
  | unexpectedEnd
  deriving DecidableEq

/-- The first stretch of bytes that is not the form of a code point. -/
structure Fault where
  /-- The first byte of the stretch. -/
  byte : UInt8
  /-- The number of bytes in front of the stretch. -/
  position : Nat
  /-- The number of bytes in the stretch. -/
  length : Nat
  /-- Why the stretch is no form. -/
  reason : Reason
  deriving DecidableEq

/-- The wording of a reason. -/
def Reason.message : Reason → Text
  | .invalidStart => "invalid start byte".toList
  | .invalidContinuation => "invalid continuation byte".toList
  | .unexpectedEnd => "unexpected end of data".toList

/-- The wording of a fault: one byte is shown, of more only the positions. -/
def Fault.message (fault : Fault) : Text :=
  "'utf-8' codec can't decode ".toList ++
    (if fault.length = 1 then
      "byte 0x".toList ++ hex 2 fault.byte.toNat ++ " in position ".toList ++
        ofNat fault.position
    else
      "bytes in position ".toList ++ ofNat fault.position ++ "-".toList ++
        ofNat (fault.position + fault.length - 1)) ++
    ": ".toList ++ fault.reason.message

/-- What a first byte announces: the number of further bytes, the bits it holds, and the
bounds of the second byte, which rule out surrogates, forms that are not the shortest and
numbers that are no code point. -/
structure Lead where
  /-- The number of further bytes. -/
  more : Nat
  /-- The bits of the code point in the first byte. -/
  bits : Nat
  /-- The least second byte. -/
  low : Nat
  /-- The greatest second byte. -/
  high : Nat

/-- What a byte announces as a first one, if it can be one. -/
def Lead.ofByte? (byte : UInt8) : Option Lead :=
  let n := byte.toNat
  if n < 0x80 then some ⟨0, n, 0x80, 0xbf⟩
  else if n < 0xc2 then none
  else if n < 0xe0 then some ⟨1, n - 0xc0, 0x80, 0xbf⟩
  else if n < 0xf0 then
    some ⟨2, n - 0xe0, if n = 0xe0 then 0xa0 else 0x80, if n = 0xed then 0x9f else 0xbf⟩
  else if n < 0xf5 then
    some ⟨3, n - 0xf0, if n = 0xf0 then 0x90 else 0x80, if n = 0xf4 then 0x8f else 0xbf⟩
  else none

/-- Read `more` further bytes, the first of them between the bounds, onto the bits read so
far.  The answer is the bits and the bytes left, or the number of bytes that fitted and the
reason why the next one does not. -/
def readMore (bits low high : Nat) :
    Nat → List UInt8 → Except (Nat × Reason) (Nat × List UInt8)
  | 0, bytes => .ok (bits, bytes)
  | _ + 1, [] => .error (0, .unexpectedEnd)
  | more + 1, byte :: bytes =>
      if low ≤ byte.toNat ∧ byte.toNat ≤ high then
        (readMore (bits * 0x40 + (byte.toNat - 0x80)) 0x80 0xbf more bytes).mapError
          fun (fitted, reason) => (fitted + 1, reason)
      else
        .error (0, .invalidContinuation)

theorem length_le_of_readMore {bits low high more : Nat} {bytes rest : List UInt8} {n : Nat}
    (readEq : readMore bits low high more bytes = .ok (n, rest)) :
    rest.length ≤ bytes.length := by
  induction more generalizing bits low high bytes with
  | zero =>
      simp only [readMore] at readEq
      cases readEq
      exact Nat.le_refl _
  | succ more inductionHypothesis =>
      cases bytes with
      | nil => simp [readMore] at readEq
      | cons byte bytes =>
          simp only [readMore] at readEq
          split at readEq
          · unfold Except.mapError at readEq
            split at readEq
            · cases readEq
            · rename_i found innerEq
              cases readEq
              exact Nat.le_succ_of_le (inductionHypothesis innerEq)
          · cases readEq

/-- Decode bytes of which the given number has been decoded before. -/
def decodeFrom (position : Nat) : List UInt8 → Except Fault Text
  | [] => .ok []
  | byte :: bytes =>
      match Lead.ofByte? byte with
      | none => .error ⟨byte, position, 1, .invalidStart⟩
      | some lead =>
          match _readEq : readMore lead.bits lead.low lead.high lead.more bytes with
          | .error (fitted, reason) => .error ⟨byte, position, fitted + 1, reason⟩
          | .ok (n, rest) =>
              (decodeFrom (position + lead.more + 1) rest).map (Char.ofNat n :: ·)
  termination_by bytes => bytes.length
  decreasing_by
    have := length_le_of_readMore _readEq
    simp only [List.length_cons]
    omega

/-- The text that the bytes are the form of. -/
def decode (bytes : List UInt8) : Except Fault Text :=
  decodeFrom 0 bytes

end Lunette.Text.Utf8
