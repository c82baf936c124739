import Lunette.Text
import Lunette.Text.Printable

/-!
# Quoted text

Messages and token listings show text between quotation marks in a form that has no line
breaks and no unprintable code points.  The mark is an apostrophe, or a double quote where
the text holds an apostrophe and no double quote, so that as little as possible is escaped.
-/

namespace Lunette.Text

/-- The mark that goes around the text. -/
def quoteMark (s : Text) : Char :=
  if s.contains apostrophe && !s.contains doubleQuote then doubleQuote else apostrophe

/-- The shortest of the three hexadecimal escapes that fits the code point. -/
def hexEscape (c : Char) : Text :=
  let n := c.toNat
  if n < 0x100 then backslash :: 'x' :: hex 2 n
  else if n < 0x10000 then backslash :: 'u' :: hex 4 n
  else backslash :: 'U' :: hex 8 n

/-- One code point as it stands between the given marks. -/
def quoteChar (mark c : Char) : Text :=
  if c = mark || c = backslash then [backslash, c]
  else if c = '\n' then [backslash, 'n']
  else if c = '\r' then [backslash, 'r']
  else if c = '\t' then [backslash, 't']
  else if isPrintable c then [c]
  else hexEscape c

/-- The text between quotation marks. -/
def quoted (s : Text) : Text :=
  let mark := quoteMark s
  mark :: s.flatMap (quoteChar mark) ++ [mark]

end Lunette.Text
