import Lunette.Kind
import Lunette.Place
import Lunette.Text.Quoted

/-!
# Tokens

A token is a piece of source text with its kind and the place of its first character.
-/

namespace Lunette

/-- A token. -/
structure Token where
  /-- What the token is in the grammar. -/
  kind : Kind
  /-- The source text of the token; a string literal leaves out its quotes. -/
  lexeme : Text
  /-- Where the token starts. -/
  place : Place
  deriving DecidableEq

namespace Token

/-- A token is shown by its kind and its quoted lexeme; its place is left out. -/
def shown (token : Token) : Text :=
  "Token(".toList ++ token.kind.name ++ ", ".toList ++ Text.quoted token.lexeme ++ [')']

/-- The listing of tokens, one a line. -/
def listing (tokens : List Token) : Text :=
  Text.joinLines (tokens.map shown)

end Token

end Lunette
