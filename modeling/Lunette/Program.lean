import Lunette.Diagnostic
import Lunette.Grammar.Statement
import Lunette.Token.Closed
import Lunette.Token.Scan

/-!
# Reading whole programs

A program is read from a closed token list, from its first token and with no block open.
The module also reads a program from any token list, which has to be closed, and from source
text.
-/

namespace Lunette

/-- Why no program can be read. -/
inductive Failure where
  /-- The text cannot be cut into tokens. -/
  | scan (error : ScanError)
  /-- The tokens are not closed by their only end marker. -/
  | unclosed
  /-- The tokens are not a program. -/
  | parse (error : ParseError)
  deriving DecidableEq

/-- The wording of a failure. -/
def Failure.message : Failure → Text
  | .scan error => error.diagnostic.message
  | .unclosed => "Token list must end with exactly one EOF token".toList
  | .parse error => error.diagnostic.message

/-- What is wrong with the source text, unless the fault lies in the token list. -/
def Failure.diagnostic? : Failure → Option Diagnostic
  | .scan error => some error.diagnostic
  | .unclosed => none
  | .parse error => some error.diagnostic

/-- The cursor at the first token, with no block open. -/
def ClosedTokens.start (tokens : ClosedTokens) : Cursor :=
  ⟨tokens.body, tokens.marker, 0⟩

namespace Ast.Program

/-- Read a program from closed tokens.  The answer shows the cursor at which the reading
ended or failed. -/
def read (tokens : ClosedTokens) : EStateM.Result ParseError Cursor Program :=
  (Program.mk <$> Rule.block).run tokens.start

/-- Read a program from a token list. -/
def ofTokens (tokens : List Token) : Except Failure Program :=
  match ClosedTokens.ofList? tokens with
  | none => .error .unclosed
  | some closed =>
      match read closed with
      | .ok program _ => .ok program
      | .error error _ => .error (.parse error)

/-- Read a program from source text; the answer shows the tokens too. -/
def ofSource (s : Text) : Except Failure (List Token × Program) :=
  match Token.scan s with
  | .error error => .error (.scan error)
  | .ok tokens => (ofTokens tokens).map fun program => (tokens, program)

end Ast.Program

end Lunette
