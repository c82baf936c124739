import Lunette.Text

/-!
# JSON text

The values that a tree is made into for other programs to read, and their one written form:
indented by two spaces a level, with all text in ASCII.
-/

namespace Lunette

/-- A JSON value of the kinds that are written. -/
inductive Json where
  | null
  | integer (value : Int)
  | text (value : Text)
  | list (items : List Json)
  | object (fields : List (Text × Json))

namespace Json

/-- The four hexadecimal digits of a UTF-16 unit, announced by a backslash and `u`. -/
def unitEscape (unit : Nat) : Text :=
  Text.backslash :: 'u' :: Text.hex 4 unit

/-- One code point as it stands in written text: controls, the delete character and all that
is not ASCII are escaped, and a code point beyond the first 65536 takes two UTF-16 units. -/
def escapeChar (c : Char) : Text :=
  if c = Text.doubleQuote || c = Text.backslash then [Text.backslash, c]
  else if c = '\n' then [Text.backslash, 'n']
  else if c = '\r' then [Text.backslash, 'r']
  else if c = '\t' then [Text.backslash, 't']
  else if c = '\x08' then [Text.backslash, 'b']
  else if c = '\x0c' then [Text.backslash, 'f']
  else
    let n := c.toNat
    if 0x20 ≤ n ∧ n < 0x7f then [c]
    else if n < 0x10000 then unitEscape n
    else
      let above := n - 0x10000
      unitEscape (0xd800 + above / 0x400) ++ unitEscape (0xdc00 + above % 0x400)

/-- Text between double quotes. -/
def quoted (s : Text) : Text :=
  Text.doubleQuote :: s.flatMap escapeChar ++ [Text.doubleQuote]

/-- The line feed and the spaces in front of a line at the given level. -/
def newline (level : Nat) : Text :=
  '\n' :: List.replicate (2 * level) ' '

mutual

/-- The written form of a value that begins on a line at the given level, in front of the
text that follows it. -/
def written (level : Nat) : Json → Text → Text
  | .null, after => "null".toList ++ after
  | .integer value, after => Text.ofInt value ++ after
  | .text value, after => quoted value ++ after
  | .list [], after => '[' :: ']' :: after
  | .list (item :: items), after =>
      '[' :: newline (level + 1) ++
        written (level + 1) item
          (writtenItems (level + 1) items (newline level ++ ']' :: after))
  | .object [], after => '\x7b' :: '\x7d' :: after
  | .object ((name, value) :: fields), after =>
      '\x7b' :: newline (level + 1) ++ quoted name ++ ':' :: ' ' ::
        written (level + 1) value
          (writtenFields (level + 1) fields (newline level ++ '\x7d' :: after))

/-- The further items of a list, each behind a comma and on a line of its own. -/
def writtenItems (level : Nat) : List Json → Text → Text
  | [], after => after
  | item :: items, after =>
      ',' :: newline level ++ written level item (writtenItems level items after)

/-- The further fields of an object, each behind a comma and on a line of its own. -/
def writtenFields (level : Nat) : List (Text × Json) → Text → Text
  | [], after => after
  | (name, value) :: fields, after =>
      ',' :: newline level ++ quoted name ++ ':' :: ' ' ::
        written level value (writtenFields level fields after)

end

/-- The value as text, without a final line feed. -/
def toText (value : Json) : Text :=
  value.written 0 []

end Json

end Lunette
