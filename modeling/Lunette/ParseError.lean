import Lunette.Token

/-!
# Why tokens are not a program

The reading of a program stops in one of two ways: a token of a certain kind was needed and
another one was there, or tokens are left over after the outermost block.
-/

namespace Lunette

/-- What a needed token is for. -/
inductive Purpose where
  /-- The semicolon that ends a statement. -/
  | statementEnd
  /-- The word between a condition and its body. -/
  | conditionEnd
  /-- The word that ends a conditional statement. -/
  | conditionalEnd
  /-- The sign between a target and its value. -/
  | assignmentSign
  /-- The name of a variable. -/
  | variableName
  /-- The end of an expression in parentheses. -/
  | parenthesisEnd
  /-- The start of the arguments of a call. -/
  | argsStart
  /-- The end of the arguments of a call. -/
  | argsEnd
  /-- Whatever the given text says, which may be nothing. -/
  | stated (message : Text)
  deriving DecidableEq

/-- The wording of a purpose. -/
def Purpose.message : Purpose → Text
  | .statementEnd => "Expect ; at the end of stat".toList
  | .conditionEnd => "Expect then after if condition".toList
  | .conditionalEnd => "Expect end after if stat".toList
  | .assignmentSign => "Expect = for assignment".toList
  | .variableName => "Expect identifier for variable name".toList
  | .parenthesisEnd => "Expect ) after (".toList
  | .argsStart => "Expect ( on starting args".toList
  | .argsEnd => "Expect ) after args".toList
  | .stated message => message

/-- Why the reading of a program stops. -/
inductive ParseError where
  /-- A token of the expected kind was needed where another one was found. -/
  | expectedToken (expected : Kind) (purpose : Purpose) (found : Token)
  /-- The found token follows the outermost block. -/
  | unexpectedTopLevel (found : Token)
  deriving DecidableEq

/-- The token that stopped the reading. -/
def ParseError.found : ParseError → Token
  | .expectedToken _ _ found => found
  | .unexpectedTopLevel found => found

end Lunette
