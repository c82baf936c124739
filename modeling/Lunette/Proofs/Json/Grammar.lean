import Lunette.Json
import Lunette.Proofs.Text.Hex
import Mathlib.Computability.Language

/-!
# The grammar of JSON text

The texts that stand for a value, as languages put together from those of its parts: blanks
around every mark and value, any of the ways to write a character between double quotes, and
any of the ways to write an integer.  Words and numbers that stand for no value of the type
are left out.
-/

namespace Lunette.Json

/-! ## Marks and blanks -/

/-- A character that stands for itself. -/
def mark (c : Char) : Language Char := {[c]}

/-- The characters that may stand around marks and values. -/
def isBlank (c : Char) : Bool :=
  c = ' ' || c = '\t' || c = '\n' || c = '\r'

/-- Any number of blanks. -/
def blanks : Language Char := {s | ∀ c ∈ s, isBlank c}

/-! ## Integers -/

/-- The decimal digits of a natural number, with no zero in front of other digits. -/
def naturals (n : Nat) : Language Char :=
  {s | s ≠ [] ∧ (∀ c ∈ s, c.isDigit) ∧ (s.head? = some '0' → s = ['0']) ∧
    Nat.ofDigitChars 10 s 0 = n}

/-- An integer, which may have a minus sign in front. -/
def integers (value : Int) : Language Char :=
  {s | ∃ n : Nat, value = n ∧ s ∈ naturals n ∨ value = -n ∧ s ∈ mark '-' * naturals n}

/-! ## Text between double quotes -/

/-- The letters and marks that stand for a character behind a backslash. -/
def shortEscapes : List (Char × Char) :=
  [(Text.doubleQuote, Text.doubleQuote), (Text.backslash, Text.backslash), ('/', '/'),
   ('b', '\x08'), ('f', '\x0c'), ('n', '\n'), ('r', '\r'), ('t', '\t')]

/-- A UTF-16 unit: a backslash, `u` and four hexadecimal digits. -/
def unitForms (unit : Nat) : Language Char :=
  {s | ∃ digits, s = Text.backslash :: 'u' :: digits ∧ digits.length = 4 ∧
    Text.ofHex? digits = some unit}

/-- The UTF-16 units of a character: itself, or a pair of surrogates. -/
def units (c : Char) : List Nat :=
  if c.toNat < 0x10000 then [c.toNat]
  else [0xd800 + (c.toNat - 0x10000) / 0x400, 0xdc00 + (c.toNat - 0x10000) % 0x400]

/-- The ways to write a character between double quotes. -/
inductive CharForm (c : Char) : Text → Prop
  /-- The character stands for itself, unless it is a control, a quote or a backslash. -/
  | plain (noControl : 0x20 ≤ c.toNat) (noQuote : c ≠ Text.doubleQuote)
      (noBackslash : c ≠ Text.backslash) : CharForm c [c]
  /-- A letter or a mark behind a backslash stands for the character. -/
  | short {letter : Char} (listed : (letter, c) ∈ shortEscapes) :
      CharForm c [Text.backslash, letter]
  /-- The UTF-16 units of the character are written out. -/
  | escaped {s : Text} (spelled : s ∈ ((units c).map unitForms).prod) : CharForm c s

/-- The ways to write a character between double quotes, as a language. -/
def charForms (c : Char) : Language Char := {s | CharForm c s}

/-- Text between double quotes. -/
def quotations (s : Text) : Language Char :=
  mark Text.doubleQuote * ((s.map charForms).prod * mark Text.doubleQuote)

/-! ## Values -/

/-- What stands behind an item: further items, each behind a comma, and blanks. -/
def behind : List (Language Char) → Language Char
  | [] => blanks
  | form :: forms => blanks * (mark ',' * (blanks * (form * behind forms)))

/-- What stands between brackets: blanks, or items with commas between them. -/
def listed : List (Language Char) → Language Char
  | [] => blanks
  | form :: forms => blanks * (form * behind forms)

/-- A field: a name, a colon and a value. -/
def fieldForm (name : Text) (form : Language Char) : Language Char :=
  quotations name * (blanks * (mark ':' * (blanks * form)))

mutual

/-- The texts of a value, without blanks around it. -/
def forms : Json → Language Char
  | .null => {"null".toList}
  | .integer value => integers value
  | .text value => quotations value
  | .list items => mark '[' * (listed (formsAll items) * mark ']')
  | .object fields => mark '\x7b' * (listed (fieldForms fields) * mark '\x7d')

/-- The texts of each item of a list. -/
def formsAll : List Json → List (Language Char)
  | [] => []
  | item :: items => item.forms :: formsAll items

/-- The texts of each field of an object. -/
def fieldForms : List (Text × Json) → List (Language Char)
  | [] => []
  | (name, value) :: fields => fieldForm name value.forms :: fieldForms fields

end

/-- The texts that stand for a value. -/
def texts (value : Json) : Language Char :=
  blanks * (value.forms * blanks)

theorem formsAll_eq_map (items : List Json) : formsAll items = items.map forms := by
  induction items with
  | nil => rfl
  | cons item items inductionHypothesis =>
      rw [formsAll, inductionHypothesis, List.map_cons]

theorem fieldForms_eq_map (fields : List (Text × Json)) :
    fieldForms fields = fields.map fun field => fieldForm field.1 field.2.forms := by
  induction fields with
  | nil => rfl
  | cons field fields inductionHypothesis =>
      rw [fieldForms, inductionHypothesis, List.map_cons]

end Lunette.Json
