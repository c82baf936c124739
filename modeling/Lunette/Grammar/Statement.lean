import Lunette.Grammar.Expression

/-!
# The grammar of statements

```text
block         := stat*
stat          := "local" declaration | "if" conditional | assignment | callStatement
declaration   := name ["=" exp] ";"
conditional   := exp "then" block ["else" block] "end" ";"
assignment    := name "=" exp ";"
callStatement := call ";"
```

A statement is chosen by the token at the cursor and the one after it.  A token that starts
no statement ends the block and is left unread; only the outermost block has to end at the
end marker.
-/

namespace Lunette.Rule

open Ast

/-- Read a declaration from its target on. -/
def declaration : Rule Stat := do
  let target ← name
  let value ←
    match ← accept (· = .assign) with
    | some _ => some <$> exp
    | none => pure none
  let _ ← expect .semicolon .statementEnd
  return .declare target value

/-- Read an assignment. -/
def assignment : Rule Stat := do
  let target ← name
  let _ ← expect .assign .assignmentSign
  let value ← exp
  let _ ← expect .semicolon .statementEnd
  return .assign target value

/-- Read a call that stands alone. -/
def callStatement : Rule Stat := do
  let inner ← call
  let _ ← expect .semicolon .statementEnd
  return .call inner

/-- Read the two words that end a conditional statement. -/
def conditionalEnd : Rule Unit := do
  let _ ← expect .endWord .conditionalEnd
  let _ ← expect .semicolon .statementEnd

/-- Read a conditional statement from its condition on. -/
def conditionalWith (block : Rule Block) : Rule Stat := do
  let condition ← exp
  let _ ← expect .thenWord .conditionEnd
  let body ← block
  match ← accept (· = .elseWord) with
  | some _ =>
      let other ← block
      conditionalEnd
      return .ifThenElse condition body other
  | none =>
      conditionalEnd
      return .ifThen condition body

/-- Read a statement, or nothing where no statement starts. -/
def statWith (block : Rule Block) : Rule (Option Stat) := do
  match ← accept (· = .localWord) with
  | some _ => some <$> declaration
  | none =>
      match ← accept (· = .ifWord) with
      | some _ => some <$> conditionalWith block
      | none =>
          let cursor ← get
          if cursor.nextKind = .assign then
            some <$> assignment
          else if cursor.kind = .openParen ∨ cursor.kind = .identifier then
            some <$> callStatement
          else
            return none

/-- Read no more than the given number of statements, up to where none starts. -/
def statsWithin (stat : Rule (Option Stat)) : Nat → Rule Block
  | 0 => return []
  | bound + 1 => do
      match ← stat with
      | some first => return first :: (← statsWithin stat bound)
      | none => return []

/-- Read the statements of a block as one more open block.  The outermost block has to end
at the end marker. -/
def blockOf (stats : Rule Block) : Rule Block := do
  modify fun cursor => { cursor with depth := cursor.depth + 1 }
  let block ← stats
  modify fun cursor => { cursor with depth := cursor.depth - 1 }
  let cursor ← get
  if cursor.depth = 0 ∧ cursor.kind ≠ .endOfInput then
    throw (.unexpectedTopLevel cursor.current)
  else
    return block

/-- Read a block from no more than the given number of tokens.  Both a statement and a
nested block come with a token read, so the number bounds the statements and the nesting. -/
def blockWithin : Nat → Rule Block
  | 0 => blockOf (return [])
  | bound + 1 => blockOf (statsWithin (statWith (blockWithin bound)) (bound + 1))

/-- Read a block. -/
def block : Rule Block := do
  blockWithin (← get).rest.length

/-- Read a conditional statement from its condition on. -/
def conditional : Rule Stat := conditionalWith block

/-- Read a statement, or nothing where no statement starts. -/
def stat : Rule (Option Stat) := statWith block

/-- Read statements up to where none starts. -/
def stats : Rule Block := do
  statsWithin stat (← get).rest.length

end Lunette.Rule
