import Lunette.Text

/-!
# Places in a text

A place is a position in a text, with its line and its column.  Places move forward one
character at a time: a line feed starts the next line, and any other character, a carriage
return included, takes one column.  The numbers are integers because a token made by hand
may carry any.
-/

namespace Lunette

/-- A position in a text, counted from zero, with its line and column, counted from one. -/
structure Place where
  /-- The number of characters before the place. -/
  offset : Int
  /-- The line of the place. -/
  line : Int
  /-- The column of the place in its line. -/
  column : Int
  deriving DecidableEq

namespace Place

/-- The place of the first character. -/
def start : Place := ⟨0, 1, 1⟩

/-- The place after one character. -/
def after (place : Place) (c : Char) : Place :=
  if c = '\n' then ⟨place.offset + 1, place.line + 1, 1⟩
  else ⟨place.offset + 1, place.line, place.column + 1⟩

/-- The place after a text. -/
def past (place : Place) (s : Text) : Place :=
  s.foldl after place

end Place

end Lunette
