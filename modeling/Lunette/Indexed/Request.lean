import Lunette.Indexed.Routine
import Lunette.Session

/-!
# Requests by index

Whatever a session is asked for can be done by index as well, with single steps or with the
routine of a phrase.  The number of tokens bounds the calls of routines that wait for each other.
-/

namespace Lunette.Session

open Indexed

namespace Phrase

/-- The routine that reads a phrase. -/
def routine : Phrase → Routine
  | .program | .block => .block
  | .stat => .stat
  | .declaration => .declaration
  | .conditional => .conditional
  | .assignment => .assignment
  | .callStatement => .callStatement
  | .name => .name
  | .exp => .exp
  | .binary => .binary
  | .unary => .unary
  | .call => .call
  | .primary => .primary
  | .args => .args

/-- What a session replies with the value that the routine of a phrase returns. -/
def reply : (phrase : Phrase) → phrase.routine.Value → Reply
  | .program, value => .node (.root ⟨value⟩)
  | .block, value => .node (.block value)
  | .stat, some value => .node (.stat value)
  | .stat, none => .nothing
  | .declaration, value | .conditional, value | .assignment, value | .callStatement, value =>
      .node (.stat value)
  | .name, value => .node (.term value)
  | .exp, value => .node (.exp value)
  | .binary, value => .node (.binary value)
  | .unary, value => .node (.unary value)
  | .call, value => .node (.call value)
  | .primary, value => .node (.primary value)
  | .args, value => .node (.args value)

/-- Read a phrase where the session stands. -/
def steps (tokens : List Token) (phrase : Phrase) : Parsing Reply := do
  return phrase.reply (← phrase.routine.within tokens (Routine.ranks * tokens.length))

end Phrase

/-- What is done by index on a request.  A program is read from the first token on, with no block
open. -/
def Request.steps (tokens : List Token) : Request → Parsing Reply
  | .current => return .token (← Parsing.current tokens)
  | .peek offset => return .token (← Parsing.peek tokens offset)
  | .advance => return .token (← Parsing.advance tokens)
  | .check kinds => return .truth (← Parsing.check tokens kinds.contains)
  | .accept kinds => do
      match ← Parsing.accept tokens kinds.contains with
      | some token => return .token token
      | none => return .nothing
  | .expect kind message => return .token (← Parsing.expect tokens kind (.stated message))
  | .read .program => do
      set (⟨0, 0⟩ : Position)
      Phrase.program.steps tokens
  | .read phrase => phrase.steps tokens

/-- The place of the session. -/
def place (session : Session) : Position :=
  ⟨session.position, session.depth⟩

/-- The fault of the steps where a request fails. -/
def Fault.byIndex : Fault → Indexed.Fault
  | .peek _ => .outOfRange
  | .parse error => .parse error

end Lunette.Session
