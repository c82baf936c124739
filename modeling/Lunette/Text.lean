/-!
# Text

Source text, lexemes and messages are lists of code points, so that every index, offset and
length counts code points and a text is taken apart by recursion on its data.  The module
holds the few operations on text that more than one part of the library needs.
-/

namespace Lunette

/-- A text is a list of code points. -/
abbrev Text := List Char

namespace Text

/-- The mark around quoted text, unless the text itself holds it. -/
def apostrophe : Char := '\x27'

/-- The mark around string literals. -/
def doubleQuote : Char := '\x22'

/-- The backslash, which announces an escape in quoted text. -/
def backslash : Char := '\x5c'

/-- Lines joined by line feeds, with none after the last line. -/
def joinLines (lines : List Text) : Text :=
  List.intercalate ['\n'] lines

/-- The decimal digits of a natural number. -/
def ofNat (n : Nat) : Text :=
  Nat.toDigits 10 n

/-- The decimal form of an integer, with a minus sign in front of a negative one. -/
def ofInt : Int → Text
  | .ofNat n => ofNat n
  | .negSucc n => '-' :: ofNat (n + 1)

/-- The lower-case hexadecimal digits of `n`, with zeros in front up to `width` digits. -/
def hex (width n : Nat) : Text :=
  let digits := Nat.toDigits 16 n
  List.replicate (width - digits.length) '0' ++ digits

/-- Bytes as text: each byte is the code point of the same number. -/
def ofBytes (bytes : List UInt8) : Text :=
  bytes.map fun byte => Char.ofNat byte.toNat

/-- Whether the text holds `word` as a stretch of neighbouring code points. -/
def holds (word : Text) : Text → Bool
  | [] => word.isEmpty
  | c :: cs => word.isPrefixOf (c :: cs) || holds word cs

/-! ## Classes of whole texts -/

/-- Whether the text comes before the other one in the lexicographic order of code points. -/
def precedes (s other : Text) : Bool :=
  s.lex other fun a b => a.toNat < b.toNat

/-- Whether the text lies between two others, which count as between themselves. -/
def between (low high s : Text) : Bool :=
  !s.precedes low && !high.precedes s

theorem precedes_singleton (c other : Char) :
    precedes [c] [other] = decide (c.toNat < other.toNat) := by
  simp [precedes, List.lex]

/-- Texts of one character lie between each other as their characters do. -/
theorem between_singleton (low high c : Char) :
    between [low] [high] [c] =
      (decide (low.toNat ≤ c.toNat) && decide (c.toNat ≤ high.toNat)) := by
  simp only [between, precedes_singleton, ← decide_not, Nat.not_lt]

/-- A text in the class of digits: one that lies between `0` and `9`.  A longer text counts
by its order, so `5x` is in the class and `9x` is not. -/
def isDigitText (s : Text) : Bool :=
  between ['0'] ['9'] s

/-- A text in the class of letters: one that lies between `a` and `z` or between `A` and
`Z`, or is an underscore. -/
def isLetterText (s : Text) : Bool :=
  between ['a'] ['z'] s || between ['A'] ['Z'] s || s = ['_']

/-- A text in either class. -/
def isWordText (s : Text) : Bool :=
  isDigitText s || isLetterText s

end Text

end Lunette
