import Lunette.ParseError

/-!
# Reading tokens by rules

A cursor stands at a place in a closed token list and knows how many blocks are open there.
A rule of the grammar reads tokens from a cursor; a rule that fails leaves the cursor where
the failure arose.  The module holds cursors and the rules that look at or read one token.
-/

namespace Lunette

/-- A place in a closed token list. -/
structure Cursor where
  /-- The tokens from the place to the end marker, without the marker. -/
  rest : List Token
  /-- The end marker. -/
  marker : Token
  /-- The number of blocks that are open. -/
  depth : Nat

namespace Cursor

/-- The token at the cursor, which is the marker when no other one is left. -/
def current (cursor : Cursor) : Token :=
  cursor.rest.headD cursor.marker

/-- The kind of the token at the cursor. -/
def kind (cursor : Cursor) : Kind :=
  match cursor.rest with
  | [] => .endOfInput
  | token :: _ => token.kind

/-- The kind of the token after the one at the cursor; nothing follows the marker but itself. -/
def nextKind (cursor : Cursor) : Kind :=
  match cursor.rest with
  | _ :: token :: _ => token.kind
  | _ => .endOfInput

end Cursor

/-- A rule of the grammar: it reads a phrase from a cursor or says why it cannot. -/
abbrev Rule := EStateM ParseError Cursor

namespace Rule

/-- Read one token.  The marker can be read any number of times. -/
def advance : Rule Token := do
  let cursor ← get
  set { cursor with rest := cursor.rest.tail }
  return cursor.current

/-- Read a token whose kind is wanted, if there is one at the cursor. -/
def accept (wanted : Kind → Bool) : Rule (Option Token) := do
  if wanted (← get).kind then
    return some (← advance)
  else
    return none

/-- Read a token of one kind, or fail because it was needed. -/
def expect (kind : Kind) (purpose : Purpose) : Rule Token := do
  let cursor ← get
  if cursor.kind = kind then
    advance
  else
    throw (.expectedToken kind purpose cursor.current)

end Rule

end Lunette
