import Lunette.ParseError
import Lunette.Token.Scan

/-!
# Diagnostics

A diagnostic says what is wrong with a source text and where.  Besides the faults that
scanning and parsing find, general ones can be stated; every diagnostic belongs to a
category, and categories form a tree.
-/

namespace Lunette

/-- What is wrong with a source text, and where. -/
inductive Diagnostic where
  /-- A stated fault. -/
  | general (text : Text) (place : Place)
  /-- A stated fault in the cutting of tokens. -/
  | lexical (text : Text) (place : Place)
  /-- The characters at the place begin no lexeme. -/
  | unexpectedCharacter (chars : Text) (place : Place)
  /-- The string literal that opens at the place is never closed. -/
  | unterminatedString (place : Place)
  /-- A stated fault at a token. -/
  | syntactic (text : Text) (found : Token)
  /-- A token of the expected kind was needed where another one was found. -/
  | expectedToken (expected : Kind) (purpose : Purpose) (found : Token)
  /-- The found token follows the outermost block. -/
  | unexpectedTopLevel (found : Token)
  deriving DecidableEq

/-- The diagnostic of a text that cannot be cut into tokens. -/
def ScanError.diagnostic : ScanError → Diagnostic
  | .unexpectedCharacter char place => .unexpectedCharacter [char] place
  | .unterminatedString place => .unterminatedString place

/-- The diagnostic of tokens that are not a program. -/
def ParseError.diagnostic : ParseError → Diagnostic
  | .expectedToken expected purpose found => .expectedToken expected purpose found
  | .unexpectedTopLevel found => .unexpectedTopLevel found

namespace Diagnostic

/-- What is wrong, without the place. -/
def text : Diagnostic → Text
  | .general text _ | .lexical text _ | .syntactic text _ => text
  | .unexpectedCharacter chars _ => "Unexpected character ".toList ++ Text.quoted chars
  | .unterminatedString _ => "Unterminated string".toList
  | .expectedToken expected purpose found =>
      (if purpose.message = [] then [] else purpose.message ++ " - ".toList) ++
        "expected ".toList ++ expected.name ++ " but got ".toList ++ found.shown
  | .unexpectedTopLevel found =>
      "Unexpected token ".toList ++ found.shown ++ " after top-level block".toList

/-- The token that is at fault, if one is. -/
def token? : Diagnostic → Option Token
  | .syntactic _ found | .expectedToken _ _ found | .unexpectedTopLevel found => some found
  | _ => none

/-- The characters that begin no lexeme, if those are at fault. -/
def chars? : Diagnostic → Option Text
  | .unexpectedCharacter chars _ => some chars
  | _ => none

/-- The kind of token that was needed, if one was. -/
def expected? : Diagnostic → Option Kind
  | .expectedToken expected _ _ => some expected
  | _ => none

/-- Where the fault is.  A fault at a token is where the token starts. -/
def place : Diagnostic → Place
  | .general _ place | .lexical _ place | .unexpectedCharacter _ place
  | .unterminatedString place => place
  | .syntactic _ found | .expectedToken _ _ found | .unexpectedTopLevel found => found.place

/-- The line of the fault, under the name by which syntax errors are shown. -/
def lineNumber (diagnostic : Diagnostic) : Int :=
  diagnostic.place.line

/-- The column of the fault, under the name by which syntax errors are shown. -/
def lineOffset (diagnostic : Diagnostic) : Int :=
  diagnostic.place.column

/-- What is wrong and where, as it is reported. -/
def message (diagnostic : Diagnostic) : Text :=
  diagnostic.text ++ " at line ".toList ++ Text.ofInt diagnostic.place.line ++
    ", col ".toList ++ Text.ofInt diagnostic.place.column

/-! ## Categories -/

/-- The categories of diagnostics. -/
inductive Category where
  | general | lexical | unexpectedCharacter | unterminatedString
  | syntactic | expectedToken | unexpectedTopLevel
  deriving DecidableEq

/-- The category of a diagnostic. -/
def category : Diagnostic → Category
  | .general .. => .general
  | .lexical .. => .lexical
  | .unexpectedCharacter .. => .unexpectedCharacter
  | .unterminatedString .. => .unterminatedString
  | .syntactic .. => .syntactic
  | .expectedToken .. => .expectedToken
  | .unexpectedTopLevel .. => .unexpectedTopLevel

/-- A category followed by the wider ones that hold it, up to the widest. -/
def Category.lineage : Category → List Category
  | .general => [.general]
  | .lexical => [.lexical, .general]
  | .unexpectedCharacter => [.unexpectedCharacter, .lexical, .general]
  | .unterminatedString => [.unterminatedString, .lexical, .general]
  | .syntactic => [.syntactic, .general]
  | .expectedToken => [.expectedToken, .syntactic, .general]
  | .unexpectedTopLevel => [.unexpectedTopLevel, .syntactic, .general]

end Diagnostic

end Lunette
