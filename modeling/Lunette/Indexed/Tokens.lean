import Lunette.Indexed.Steps

/-!
# Tokens by index

Parsing keeps the index of the next token in a list and looks tokens up there, at the index or
some places away from it.  The steps here deal with single tokens and with the blocks that are
open; how they are put together to read a phrase is left to routines.
-/

namespace Lunette.Indexed

open Ast

/-- The index of the next token, and the number of blocks that are open. -/
structure Position where
  /-- The index of the next token. -/
  index : Nat
  /-- The number of blocks that are open. -/
  depth : Nat

/-- Steps that move a position. -/
abbrev Parsing := Steps Position

namespace Parsing

variable (tokens : List Token)

/-! ## Single tokens -/

/-- The token at an index. -/
def tokenAt (index : Nat) : Parsing Token :=
  match tokens[index]? with
  | some token => return token
  | none => throw .outOfRange

/-- The next token. -/
def current : Parsing Token := do
  tokenAt tokens (← get).index

/-- The token `offset` places after the next one, or the last one if there are not so many.  A
negative index counts from the end of the list. -/
def peek (offset : Int) : Parsing Token := do
  let size : Int := tokens.length
  let index := min ((← get).index + offset) (size - 1)
  let fromFront := if index < 0 then index + size else index
  if fromFront < 0 then throw .outOfRange else tokenAt tokens fromFront.toNat

/-- Read the next token.  An end marker is not passed. -/
def advance : Parsing Token := do
  let token ← current tokens
  if token.kind ≠ .endOfInput then
    modify fun position => { position with index := position.index + 1 }
  return token

/-- Whether the kind of the next token is wanted. -/
def check (wanted : Kind → Bool) : Parsing Bool := do
  return wanted (← current tokens).kind

/-- Read the next token if its kind is wanted. -/
def accept (wanted : Kind → Bool) : Parsing (Option Token) := do
  if ← check tokens wanted then
    return some (← advance tokens)
  else
    return none

/-- Read the next token, which has to be of the kind. -/
def expect (kind : Kind) (purpose : Purpose) : Parsing Token := do
  if ← check tokens (· = kind) then
    advance tokens
  else
    throw (.parse (.expectedToken kind purpose (← current tokens)))

/-- Whether an assignment sign stands behind the next token. -/
def atAssign : Parsing Bool := do
  return (← peek tokens 1).kind = .assign

/-- Whether a name and an opening parenthesis come next. -/
def atCall : Parsing Bool := do
  if ← check tokens (· = .identifier) then
    return (← peek tokens 1).kind = .openParen
  else
    return false

/-! ## Parts of phrases -/

/-- Put an expression together. -/
def build (left : Unary) (op : Option Token) (right : Option Unary) : Parsing Exp :=
  match Exp.ofParts left op right with
  | .ok exp => return exp
  | .error fault => throw (.half fault)

/-- Read the two words that end a conditional statement. -/
def conditionalEnd : Parsing Unit := do
  let _ ← expect tokens .endWord .conditionalEnd
  let _ ← expect tokens .semicolon .statementEnd

/-- Open a block. -/
def openBlock : Parsing Unit :=
  modify fun position => { position with depth := position.depth + 1 }

/-- Close a block. -/
def closeBlock : Parsing Unit :=
  modify fun position => { position with depth := position.depth - 1 }

/-- End a block that holds the given statements.  The outermost block has to end at the end
marker. -/
def blockEnd (values : Block) : Parsing Block := do
  if (← get).depth = 0 then
    if ← check tokens (· ≠ .endOfInput) then
      throw (.parse (.unexpectedTopLevel (← current tokens)))
    else
      return values
  else
    return values

end Parsing

end Lunette.Indexed
