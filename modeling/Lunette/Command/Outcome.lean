import Lunette.Command.Options

/-!
# The command

The command reads its arguments, runs once and ends with an exit status and two texts: the
output, and the messages with the log in front of them.  A source that is not a program ends
with status 1, any other error with status 2.  Standard input is the source text when there
is no source argument; where it does not hold text the command has no outcome.
-/

namespace Lunette.Command

/-- How the command ends. -/
structure Outcome where
  /-- The exit status. -/
  status : Nat
  /-- What is written to standard output. -/
  output : Text
  /-- What is written to standard error. -/
  messages : Text
  deriving DecidableEq

/-- The version of the library. -/
def versionNumber : Text := "0.1.0".toList

/-- The one line that says how the command is used. -/
def usageLine : Text :=
  "usage: klua [-h] [-s] [--tokens] [-f \x7btree,json\x7d] [-v] [--version] [source]".toList

/-- The text that is shown on a request for help. -/
def helpText : Text :=
  Text.joinLines
    [usageLine,
     [],
     "positional arguments:".toList,
     "  source                Filename or raw source (with -s); stdin if omitted".toList,
     [],
     "options:".toList,
     "  -h, --help            show this help message and exit".toList,
     "  -s, --string          Interpret source as literal string".toList,
     "  --tokens              Print the token list instead of the AST".toList,
     "  -f \x7btree,json\x7d, --format \x7btree,json\x7d".toList,
     "                        AST output format (default: tree)".toList,
     "  -v, --verbose         Enable debug logging".toList,
     "  --version             show program's version number and exit".toList]

/-- The text of some lines, each ended by a line feed. -/
def linesText (lines : List Text) : Text :=
  lines.flatMap fun line => line ++ ['\n']

/-- How the command ends when the arguments do not lead to a run. -/
def Stop.outcome : Stop → Outcome
  | .help => ⟨0, linesText [helpText], []⟩
  | .version => ⟨0, linesText ["klua ".toList ++ versionNumber], []⟩
  | .usage error => ⟨2, [], linesText [usageLine, "klua: error: ".toList ++ error.message]⟩

/-- The exit status for the error of a run. -/
def RunError.status : RunError → Nat
  | .failure _ => 1
  | _ => 2

/-- The line that reports the error of a run. -/
def RunError.line : RunError → Text
  | .failure reason => "[error] >>> ".toList ++ reason.message
  | error => "[error] ".toList ++ error.message

/-- How the command ends after a run: the log is shown only if it is asked for. -/
def outcomeOf (verbose : Bool) (result : EStateM.Result RunError (List Event) Text) : Outcome :=
  match result with
  | .ok text events => ⟨0, linesText [text], linesText (shown events)⟩
  | .error error events => ⟨error.status, [], linesText (shown events ++ [error.line])⟩
where
  /-- The lines of the log. -/
  shown (events : List Event) : List Text :=
    if verbose then events.map Event.line else []

/-- The request that the options make, with standard input as source text if they name no
source. -/
def Options.request (options : Options) (input : List UInt8) :
    Except Text.Utf8.Fault Request :=
  match options.source with
  | some source => .ok ⟨source, options.isText, options.showTokens, options.format⟩
  | none => do
      let text ← Text.Utf8.decode input
      return ⟨Text.unifyLineEndings text, true, options.showTokens, options.format⟩

/-- How the command ends, given the files, standard input and the arguments. -/
def execute (files : FileReader) (input : List UInt8) (arguments : List Text) :
    Except Text.Utf8.Fault Outcome :=
  match Options.ofArguments arguments with
  | .error stop => .ok stop.outcome
  | .ok options => do
      let request ← options.request input
      return outcomeOf options.verbose ((run files request).run [])

/-- The same for the command as a script, which does nothing at all under a test runner: any
argument may name the runner. -/
def executeScript (files : FileReader) (input : List UInt8) (arguments : List Text) :
    Except Text.Utf8.Fault Outcome :=
  if arguments.any (Text.holds "pytest".toList) then
    .ok ⟨0, [], []⟩
  else
    execute files input arguments

end Lunette.Command
