import Lunette.Command.Outcome

/-!
# The program

The outer layer of the command: it fetches the arguments, standard input and the source
file, and writes what the command answers.
-/

namespace Lunette.Main

/-- What a failure to read a file amounts to. -/
def faultOf : IO.Error → FileFault
  | .inappropriateType _ code _ => if code = 21 then .isDirectory else .notDirectory
  | .invalidArgument _ _ _ => .nameTooLong
  | _ => .noSuchFile

/-- The bytes of a file. -/
def readFile (path : Text) : IO (Except FileFault (List UInt8)) := do
  try
    let bytes ← IO.FS.readBinFile (String.ofList path)
    return .ok bytes.toList
  catch error =>
    return .error (faultOf error)

/-- All bytes of standard input. -/
def readInput : IO (List UInt8) := do
  let bytes ← (← IO.getStdin).readBinToEnd
  return bytes.toList

end Lunette.Main

open Lunette Command in
/-- Run the command on the arguments. -/
def main (arguments : List String) : IO UInt32 := do
  let texts := arguments.map String.toList
  let mut input := []
  let mut file := .error .noSuchFile
  if let .ok options := Options.ofArguments texts then
    match options.source with
    | none => input ← Main.readInput
    | some path => if !options.isText then file ← Main.readFile path
  match executeScript (fun _ => file) input texts with
  | .ok outcome =>
      (← IO.getStdout).putStr (String.ofList outcome.output)
      (← IO.getStderr).putStr (String.ofList outcome.messages)
      return outcome.status.toUInt32
  | .error fault =>
      (← IO.getStderr).putStrLn (String.ofList fault.message)
      return 1
