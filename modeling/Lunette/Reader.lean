import Lunette.Index
import Lunette.Place

/-!
# Reading a text character by character

A reader stands at a position in a source text and counts lines and columns as it reads.
The position may be any integer: reading at a negative position counts from the end of the
text, while looking sees only what lies inside it.
-/

namespace Lunette

/-- A source text with a position in it, and the line and column counted so far. -/
structure Reader where
  /-- The text that is read. -/
  source : Text
  /-- The position of the next character. -/
  position : Int
  /-- The line of the next character. -/
  line : Int
  /-- The column of the next character. -/
  column : Int

namespace Reader

/-- Why no character can be read. -/
inductive Fault where
  /-- The position is not before the end of the text. -/
  | pastEnd (position line : Int)
  /-- The position is further in front of the end than the text is long. -/
  | outOfRange
  /-- The position is in front of every text, being less than any index. -/
  | noIndex
  deriving DecidableEq

/-- The wording of a fault. -/
def Fault.message : Fault → Text
  | .pastEnd position line =>
      "CharacterStreamError: Attempted to read past end of source at position=<".toList ++
        Text.ofInt position ++ ">, line=<".toList ++ Text.ofInt line ++ ">".toList
  | .outOfRange => "string index out of range".toList
  | .noIndex => Index.noIndexMessage

/-- The length of the source text. -/
def length (reader : Reader) : Int :=
  reader.source.length

/-- Whether no character is left. -/
def atEnd (reader : Reader) : Bool :=
  reader.length ≤ reader.position

/-- The character `offset` places after the position, if that is inside the text. -/
def peek (reader : Reader) (offset : Int) : Option Char :=
  let index := reader.position + offset
  if 0 ≤ index then reader.source[index.toNat]? else none

/-- The character at the position, where a negative position counts from the end. -/
def at? (reader : Reader) : Option Char :=
  if 0 ≤ reader.position then
    reader.source[reader.position.toNat]?
  else if -reader.length ≤ reader.position then
    reader.source[(reader.length + reader.position).toNat]?
  else
    none

/-- The reader behind the character it has read. -/
def past (reader : Reader) (c : Char) : Reader :=
  let place := Place.after ⟨reader.position, reader.line, reader.column⟩ c
  { reader with position := place.offset, line := place.line, column := place.column }

/-- Reading changes the reader; a failed reading leaves it as it was. -/
abbrev Action := EStateM Fault Reader

/-- Read the character at the position. -/
def next : Action Char := do
  let reader ← get
  if reader.atEnd then
    throw (.pastEnd reader.position reader.line)
  else
    match reader.at? with
    | none => throw (if reader.position < Index.least then .noIndex else .outOfRange)
    | some c =>
        set (reader.past c)
        return c

/-- Read a character if what is seen at the position is the expected text.  Outside the text
nothing is seen, so nothing may be expected there, and a character is then read all the
same. -/
def accept (expected : Text) : Action Bool := do
  if ((← get).peek 0).toList = expected then
    let _ ← next
    return true
  else
    return false

/-! ## Requests -/

/-- What a reader can be asked for. -/
inductive Request where
  /-- Read the next character. -/
  | next
  /-- The character `offset` places after the position. -/
  | peek (offset : Int)
  /-- Read the next character if it is the expected text. -/
  | accept (expected : Text)
  /-- Whether no character is left. -/
  | atEnd

/-- What a reader answers. -/
inductive Reply where
  | read (c : Char)
  | seen (c? : Option Char)
  | truth (value : Bool)

/-- Run an action on a reader. -/
def run {α : Type} (reader : Reader) (action : Action α) : Except Fault α × Reader :=
  match EStateM.run action reader with
  | .ok value after => (.ok value, after)
  | .error fault after => (.error fault, after)

/-- Answer a request; the answer comes with the reader afterwards. -/
def answer (reader : Reader) (request : Request) : Except Fault Reply × Reader :=
  match request with
  | .next => reader.run (.read <$> next)
  | .peek offset => (.ok (.seen (reader.peek offset)), reader)
  | .accept expected => reader.run (.truth <$> accept expected)
  | .atEnd => (.ok (.truth reader.atEnd), reader)

/-- Answer requests one after another.  A request that fails does not end the answers. -/
def answers (reader : Reader) : List Request → List (Except Fault Reply × Reader)
  | [] => []
  | request :: rest =>
      let answered := reader.answer request
      answered :: answered.2.answers rest

end Reader

end Lunette
