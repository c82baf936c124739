import Lunette.Json
import Lunette.Tree

/-!
# Trees as JSON

Every node becomes an object with its kind, the token of a term, and its children; a token
becomes an object with its kind, its lexeme, its line and its column.
-/

namespace Lunette

/-- A token as a JSON object; its offset is left out. -/
def Token.toJson (token : Token) : Json :=
  .object
    [("kind".toList, .text token.kind.name),
     ("lexeme".toList, .text token.lexeme),
     ("line".toList, .integer token.place.line),
     ("col".toList, .integer token.place.column)]

namespace Tree

/-- The fields of a node, in their written order. -/
def node (kind : NodeKind) (terminal : Json) (children : List Json) : Json :=
  .object
    [("kind".toList, .text kind.name),
     ("terminal".toList, terminal),
     ("children".toList, .list children)]

mutual

/-- A tree as a JSON object. -/
def toJson : Tree → Json
  | .leaf token => node .term token.toJson []
  | .branch kind children => node kind .null (toJsonAll children)

/-- Neighbouring trees as JSON objects. -/
def toJsonAll : List Tree → List Json
  | [] => []
  | tree :: rest => toJson tree :: toJsonAll rest

end

end Tree

end Lunette
