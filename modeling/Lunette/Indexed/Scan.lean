import Lunette.Indexed.Steps

/-!
# Scanning along a reader

Scanning reads a text character by character and cuts tokens out of it between two positions.
A token is begun by the character that is read first; loops read on as long as what they see
ahead belongs to the token.  Each loop is given the number of its turns.
-/

namespace Lunette.Indexed

/-- Steps that move a reader. -/
abbrev Scanning := Steps Reader

namespace Scanning

/-- What steps come to where a reader does an action with the result. -/
def outcome {α : Type} :
    EStateM.Result Reader.Fault Reader α → Option (Except Fault α × Reader)
  | .ok value after => some (.ok value, after)
  | .error fault after => some (.error (.reader fault), after)

/-- The action of a reader as a step. -/
def ofAction {α : Type} (action : Reader.Action α) : Scanning α :=
  ExceptT.mk fun reader => outcome (action.run reader)

/-- Read the next character. -/
def next : Scanning Char :=
  ofAction Reader.next

/-- Read the next character if it is the expected text. -/
def accept (expected : Text) : Scanning Bool :=
  ofAction (Reader.accept expected)

/-- The place of the next character. -/
def place (reader : Reader) : Place :=
  ⟨reader.position, reader.line, reader.column⟩

/-- The characters of the source from one position up to another. -/
def slice (reader : Reader) (start stop : Int) : Text :=
  (reader.source.drop start.toNat).take (stop - start).toNat

/-- Read on as long as a character of the class is seen. -/
def skipWhile (inClass : Char → Bool) : Nat → Scanning Unit
  | 0 => Steps.cutOff
  | bound + 1 => do
      match (← get).peek 0 with
      | some c =>
          if inClass c then
            let _ ← next
            skipWhile inClass bound
          else
            return
      | none => return

/-- Read on up to the end of the text or a quote. -/
def skipToQuote : Nat → Scanning Unit
  | 0 => Steps.cutOff
  | bound + 1 => do
      let reader ← get
      if reader.atEnd then
        return
      else if reader.peek 0 = some Text.doubleQuote then
        return
      else
        let _ ← next
        skipToQuote bound

/-- The token of a kind from a reader's position up to the one that has been reached. -/
def tokenFrom (start : Reader) (kind : Kind) : Scanning (Option Token) := do
  let reader ← get
  return some ⟨kind, slice reader start.position reader.position, place start⟩

/-- Read a string literal, whose opening quote has been read. -/
def stringFrom (bound : Nat) (start : Reader) : Scanning (Option Token) := do
  skipToQuote bound
  if (← get).atEnd then
    throw (.scan (.unterminatedString (place start)))
  else
    let _ ← next
    let reader ← get
    return some ⟨.string, slice reader (start.position + 1) (reader.position - 1), place start⟩

/-- Read the token that the character begins; the start is in front of the character. -/
def tokenBehind (bound : Nat) (start : Reader) (c : Char) : Scanning (Option Token) := do
  match Kind.ofSign? c with
  | some kind => tokenFrom start kind
  | none =>
      if c = '=' then
        if ← accept ['='] then tokenFrom start .equal else tokenFrom start .assign
      else if c = '~' then
        if ← accept ['='] then tokenFrom start .notEqual
        else throw (.scan (.unexpectedCharacter c (place start)))
      else if c = Text.doubleQuote then
        stringFrom bound start
      else if c.isDigit then
        skipWhile Char.isDigit bound
        tokenFrom start .number
      else if Lexeme.isWordStart c then
        skipWhile Lexeme.isWordPart bound
        let reader ← get
        tokenFrom start (Kind.ofWord (slice reader start.position reader.position))
      else
        throw (.scan (.unexpectedCharacter c (place start)))

/-- Read a token, or a blank, which makes none. -/
def token (bound : Nat) : Scanning (Option Token) := do
  let start ← get
  let c ← next
  if Lexeme.isBlank c then return none else tokenBehind bound start c

/-- Read all tokens up to the end of the text, and end them with the end marker. -/
def tokens : Nat → Scanning (List Token)
  | 0 => Steps.cutOff
  | bound + 1 => do
      let reader ← get
      if reader.atEnd then
        return [Token.endMarker (place reader)]
      else
        match ← token bound with
        | some token => return token :: (← tokens bound)
        | none => tokens bound

end Scanning

end Lunette.Indexed
