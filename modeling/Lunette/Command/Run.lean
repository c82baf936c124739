import Lunette.Ast.Node
import Lunette.Files
import Lunette.Program
import Lunette.Text.LineEndings
import Lunette.Text.Utf8
import Lunette.Tree.Dump
import Lunette.Tree.Exchange

/-!
# Running the front end once

A run takes the source of a program, scans it, and shows its tokens or its tree.  It checks
the form of the output first, then the name of the source file, then what the file holds,
and keeps a log of what it has done, also when it fails.
-/

namespace Lunette.Command

/-- What a run is asked for. -/
structure Request where
  /-- The source text, or the path of the file that holds it. -/
  source : Text
  /-- Whether the source is the text itself. -/
  isText : Bool
  /-- Whether the tokens are shown in place of the tree. -/
  showTokens : Bool
  /-- The form in which the tree is shown. -/
  format : Text

/-- Why a run fails. -/
inductive RunError where
  /-- The tree has no such form. -/
  | unknownFormat (format : Text)
  /-- The file is not named as a source file. -/
  | unsupportedSuffix
  /-- The path holds a character that ends it. -/
  | embeddedNull
  /-- The file cannot be opened. -/
  | file (fault : FileFault) (path : Text)
  /-- The file does not hold text. -/
  | undecodable (fault : Text.Utf8.Fault)
  /-- The source is not a program. -/
  | failure (failure : Failure)

/-- The wording of the error of a run. -/
def RunError.message : RunError → Text
  | .unknownFormat format => "Unknown output format: ".toList ++ format
  | .unsupportedSuffix => "Only .lua and .klua files are supported.".toList
  | .embeddedNull => "embedded null byte".toList
  | .file fault path => fault.message path
  | .undecodable fault => fault.message
  | .failure reason => reason.message

/-- What a run does, as it is logged. -/
inductive Event where
  /-- A file is read. -/
  | reading (path : Text)
  /-- A text has been cut into tokens. -/
  | scanned (tokens characters : Nat)
  /-- Tokens are read as a program. -/
  | parsing (tokens : Nat)
  /-- A program has been read. -/
  | parsed (statements : Nat)

/-- The line of an event in the log. -/
def Event.line : Event → Text
  | .reading path => "DEBUG klua: reading ".toList ++ path
  | .scanned tokens characters =>
      "DEBUG klua.klua_lexer: scanned ".toList ++ Text.ofNat tokens ++ " tokens from ".toList ++
        Text.ofNat characters ++ " characters".toList
  | .parsing tokens =>
      "DEBUG klua.klua_parser: parsing ".toList ++ Text.ofNat tokens ++ " tokens".toList
  | .parsed statements =>
      "DEBUG klua.klua_parser: parsed ".toList ++ Text.ofNat statements ++
        " top-level statements".toList

/-- A run keeps a log of its events, in order. -/
abbrev Run := EStateM RunError (List Event)

/-- Add an event to the log. -/
def log (event : Event) : Run Unit :=
  modify fun events => events ++ [event]

/-- The forms of a tree. -/
def formats : List Text := ["tree".toList, "json".toList]

/-- The endings of the names of source files. -/
def suffixes : List Text := [".lua".toList, ".klua".toList]

/-- Where files are read. -/
abbrev FileReader := Text → Except FileFault (List UInt8)

/-- The source text in a file. -/
def readSource (files : FileReader) (path : Text) : Run Text := do
  if !suffixes.any (·.isSuffixOf path) then
    throw .unsupportedSuffix
  log (.reading path)
  if path.contains '\x00' then
    throw .embeddedNull
  match files path with
  | .error fault => throw (.file fault path)
  | .ok bytes =>
      match Text.Utf8.decode bytes with
      | .error fault => throw (.undecodable fault)
      | .ok text => return Text.unifyLineEndings text

/-- The tree of a program in one of its forms. -/
def showTree (format : Text) (program : Ast.Program) : Text :=
  if format = "json".toList then program.tree.toJson.toText else program.tree.dump 0

/-- Show the tokens or the tree of a source text. -/
def showSource (request : Request) (text : Text) : Run Text := do
  match Token.scan text with
  | .error error => throw (.failure (.scan error))
  | .ok tokens =>
      log (.scanned tokens.length text.length)
      if request.showTokens then
        return Token.listing tokens
      else
        log (.parsing tokens.length)
        match Ast.Program.ofTokens tokens with
        | .error failure => throw (.failure failure)
        | .ok program =>
            log (.parsed program.block.length)
            return showTree request.format program

/-- Answer a request. -/
def run (files : FileReader) (request : Request) : Run Text := do
  if !formats.contains request.format then
    throw (.unknownFormat request.format)
  let text ← if request.isText then pure request.source else readSource files request.source
  showSource request text

end Lunette.Command
