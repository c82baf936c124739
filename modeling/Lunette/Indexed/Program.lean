import Lunette.Indexed.Routine
import Lunette.Indexed.Scan

/-!
# The front end by index

A source is text or bytes.  The front end scans it along a reader, checks that the tokens are
closed by their only end marker, and parses them by index.
-/

namespace Lunette.Indexed

/-- What can be read as a program. -/
inductive Source where
  | text (s : Text)
  | bytes (data : List UInt8)

/-- The text of a source. -/
def Source.toText : Source → Text
  | .text s => s
  | .bytes data => Text.ofBytes data

/-- Whether the last token is the only end marker. -/
def isClosed (tokens : List Token) : Bool :=
  match tokens.getLast? with
  | some last => last.kind = .endOfInput && tokens.countP (·.kind = .endOfInput) = 1
  | none => false

/-- The tokens of a text. -/
def scan (bound : Nat) (s : Text) : Option (Except Fault (List Token)) :=
  ((Scanning.tokens bound).run ⟨s, 0, 1, 1⟩).map Prod.fst

/-- The program that the tokens are.  For every token that the bound allows there may be a call
of each rank. -/
def parse (bound : Nat) (tokens : List Token) : Option (Except Fault Ast.Program) :=
  if isClosed tokens then
    ((do return ⟨← Routine.block.within tokens (Routine.ranks * bound)⟩ :
      Parsing Ast.Program).run ⟨0, 0⟩).map Prod.fst
  else
    some (.error .unclosed)

/-- The tokens and the program of a source.  There is no answer where a loop takes more turns than
the bound, or more calls wait for each other than it allows. -/
def parseSource (bound : Nat) (source : Source) :
    Option (Except Fault (List Token × Ast.Program)) := do
  match ← scan bound source.toText with
  | .error fault => return .error fault
  | .ok tokens =>
      match ← parse bound tokens with
      | .error fault => return .error fault
      | .ok program => return .ok (tokens, program)

end Lunette.Indexed
