import Lunette.Text.Quoted

/-!
# Files

A program may stand in a file.  The module holds the faults of opening one, and a table of
files and directories that is filled by paths and in which paths are followed, step by step
from one fixed directory.
-/

namespace Lunette

/-- Why no file is opened. -/
inductive FileFault where
  /-- A step of the path leads nowhere. -/
  | noSuchFile
  /-- A step of the path that is not the last is a file. -/
  | notDirectory
  /-- The path leads to a directory. -/
  | isDirectory
  /-- The path, or a step of it, has more bytes than are allowed. -/
  | nameTooLong
  deriving DecidableEq

namespace FileFault

/-- The number of the fault. -/
def number : FileFault → Nat
  | .noSuchFile => 2
  | .notDirectory => 20
  | .isDirectory => 21
  | .nameTooLong => 36

/-- The name of the fault. -/
def name : FileFault → Text
  | .noSuchFile => "No such file or directory".toList
  | .notDirectory => "Not a directory".toList
  | .isDirectory => "Is a directory".toList
  | .nameTooLong => "File name too long".toList

/-- The wording of the fault for a path. -/
def message (fault : FileFault) (path : Text) : Text :=
  "[Errno ".toList ++ Text.ofNat fault.number ++ "] ".toList ++ fault.name ++ ": ".toList ++
    Text.quoted path

end FileFault

/-! ## Places -/

/-- A place, by the names that lead to it from the start.  A place that is not below the
start begins with the steps that lead back behind it. -/
abbrev FilePlace := List Text

namespace FilePlace

/-- The step that leads back. -/
def back : Text := ['.', '.']

/-- Whether a place is the start or lies behind it. -/
def notBelowStart (place : FilePlace) : Bool :=
  place.all (· = back)

/-- The place that a step leads to.  An empty step and a dot stay, the step back takes away a
name if there is one, and any other step adds itself. -/
def move (place : FilePlace) (step : Text) : FilePlace :=
  if step = [] ∨ step = ['.'] then place
  else if step = back ∧ !place.notBelowStart then place.dropLast
  else place ++ [step]

/-- The steps of a path. -/
def steps (path : Text) : List Text :=
  path.splitOn '/'

/-- Whether a path does not depend on where it starts. -/
def isAbsolute (path : Text) : Bool :=
  path.head? = some '/'

/-- The number of bytes of a text in a path. -/
def byteCount (text : Text) : Nat :=
  text.foldl (fun count c => count + c.utf8Size) 0

/-- The greatest number of bytes in a step. -/
def stepLimit : Nat := 255

/-- The greatest number of bytes in a path. -/
def pathLimit : Nat := 4095

end FilePlace

/-! ## Tables -/

/-- What stands at a place. -/
inductive FileEntry where
  | file (bytes : List UInt8)
  | directory

/-- Files and directories by their places.  The first entry of a place counts. -/
structure FileTable where
  /-- The entries with their places. -/
  entries : List (FilePlace × FileEntry)

namespace FileTable

/-- What stands at a place.  The start and what lies behind it are directories. -/
def entry? (table : FileTable) (place : FilePlace) : Option FileEntry :=
  if place.notBelowStart then some .directory else table.entries.lookup place

/-- The table with an entry at the end of further steps.  The places on the way become
directories, and the entry takes the place of what stood there. -/
def put (table : FileTable) (entry : FileEntry) (place : FilePlace) : List Text → FileTable
  | [] => ⟨(place, entry) :: table.entries⟩
  | step :: rest =>
      FileTable.put ⟨(place, .directory) :: table.entries⟩ entry (place.move step) rest

/-- The table of entries put one after another under the given paths.  What does not depend
on the start is not in it. -/
def ofPaths (entries : List (Text × FileEntry)) : FileTable :=
  let relative := entries.filter fun (path, _) => !FilePlace.isAbsolute path
  relative.foldl (fun table (path, entry) => table.put entry [] (FilePlace.steps path)) ⟨[]⟩

/-- Follow further steps from a place that has been reached. -/
def follow (table : FileTable) (place : FilePlace) :
    List Text → Except FileFault (List UInt8)
  | [] =>
      match table.entry? place with
      | none => .error .noSuchFile
      | some .directory => .error .isDirectory
      | some (.file bytes) => .ok bytes
  | step :: rest =>
      match table.entry? place with
      | none => .error .noSuchFile
      | some (.file _) => .error .notDirectory
      | some .directory =>
          if FilePlace.stepLimit < FilePlace.byteCount step then .error .nameTooLong
          else table.follow (place.move step) rest

/-- The bytes of the file that a path leads to. -/
def read (table : FileTable) (path : Text) : Except FileFault (List UInt8) :=
  if FilePlace.pathLimit < FilePlace.byteCount path then .error .nameTooLong
  else if FilePlace.isAbsolute path then .error .noSuchFile
  else table.follow [] (FilePlace.steps path)

end FileTable

end Lunette
