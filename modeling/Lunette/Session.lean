import Lunette.Ast.Node
import Lunette.Index
import Lunette.Program

/-!
# Reading sessions

A session holds a closed token list with a place in it and answers requests one after
another: to look at tokens, to read single ones, or to read by any rule of the grammar.  A
request that fails leaves the session where the failure arose and does not end it.
-/

namespace Lunette

/-- A closed token list with the place and the open blocks of its reading. -/
structure Session where
  /-- The tokens that are read. -/
  tokens : ClosedTokens
  /-- The index of the next token. -/
  position : Nat
  /-- The number of blocks that are open. -/
  depth : Nat

namespace Session

/-- The rules of the grammar that can be asked for. -/
inductive Phrase where
  | program | block | stat | declaration | conditional | assignment | callStatement
  | name | exp | binary | unary | call | primary | args
  deriving DecidableEq

/-- What a session can be asked for. -/
inductive Request where
  /-- The next token. -/
  | current
  /-- The token `offset` places after the next one. -/
  | peek (offset : Int)
  /-- Read the next token. -/
  | advance
  /-- Whether the next token is of one of the kinds. -/
  | check (kinds : List Kind)
  /-- Read the next token if it is of one of the kinds. -/
  | accept (kinds : List Kind)
  /-- Read the next token, which has to be of the kind. -/
  | expect (kind : Kind) (message : Text)
  /-- Read by a rule of the grammar. -/
  | read (phrase : Phrase)

/-- What a session answers. -/
inductive Reply where
  | nothing
  | truth (value : Bool)
  | token (token : Token)
  | node (node : Ast.Node)

/-- Why no token is seen. -/
inductive PeekFault where
  /-- The index lies in front of the first token. -/
  | outOfRange
  /-- The number lies in front of every list, being less than any index. -/
  | noIndex
  deriving DecidableEq

/-- The wording of why no token is seen. -/
def PeekFault.message : PeekFault → Text
  | .outOfRange => "list index out of range".toList
  | .noIndex => Index.noIndexMessage

/-- Why a request fails. -/
inductive Fault where
  /-- No token is seen. -/
  | peek (fault : PeekFault)
  /-- The tokens do not follow the rule. -/
  | parse (error : ParseError)
  deriving DecidableEq

/-- The session at the first token, with no block open. -/
def start (tokens : ClosedTokens) : Session :=
  ⟨tokens, 0, 0⟩

/-- The cursor at which the session stands. -/
def cursor (session : Session) : Cursor :=
  ⟨session.tokens.body.drop session.position, session.tokens.marker, session.depth⟩

/-- The session that stands at a cursor into its tokens. -/
def moveTo (session : Session) (cursor : Cursor) : Session :=
  { session with
    position := session.tokens.body.length - cursor.rest.length
    depth := cursor.depth }

/-- The token `offset` places after the next one.  Beyond the marker there is the marker; a
negative index counts from the end of the list. -/
def peek (session : Session) (offset : Int) : Except PeekFault Token :=
  let size : Int := session.tokens.size
  let index := min (session.position + offset) (size - 1)
  let fromFront := if index < 0 then index + size else index
  match if fromFront < 0 then none else session.tokens.toList[fromFront.toNat]? with
  | some token => .ok token
  | none => .error (if index < Index.least then .noIndex else .outOfRange)

/-- The rule that reads a phrase as a node.  A statement may be missing. -/
def Phrase.rule : Phrase → Rule (Option Ast.Node)
  | .program => return some (.root ⟨← Rule.block⟩)
  | .block => return some (.block (← Rule.block))
  | .stat => return (← Rule.stat).map .stat
  | .declaration => return some (.stat (← Rule.declaration))
  | .conditional => return some (.stat (← Rule.conditional))
  | .assignment => return some (.stat (← Rule.assignment))
  | .callStatement => return some (.stat (← Rule.callStatement))
  | .name => return some (.term (← Rule.name))
  | .exp => return some (.exp (← Rule.exp))
  | .binary => return some (.binary (← Rule.exp))
  | .unary => return some (.unary (← Rule.unary))
  | .call => return some (.call (← Rule.call))
  | .primary => return some (.primary (← Rule.primary))
  | .args => return some (.args (← Rule.args))

/-- Run a rule at the place of the session. -/
def run {α : Type} (session : Session) (rule : Rule α) : Except Fault α × Session :=
  match rule.run session.cursor with
  | .ok value cursor => (.ok value, session.moveTo cursor)
  | .error error cursor => (.error (.parse error), session.moveTo cursor)

/-- Where the reading of a phrase starts: a program starts at the first token with no block
open, and any other phrase where the session stands. -/
def startOf (session : Session) : Phrase → Session
  | .program => .start session.tokens
  | _ => session

/-- Answer a request. -/
def answer (session : Session) : Request → Except Fault Reply × Session
  | .current => (.ok (.token session.cursor.current), session)
  | .peek offset =>
      match session.peek offset with
      | .ok token => (.ok (.token token), session)
      | .error fault => (.error (.peek fault), session)
  | .advance => session.run (.token <$> Rule.advance)
  | .check kinds => (.ok (.truth (kinds.contains session.cursor.kind)), session)
  | .accept kinds =>
      session.run do
        match ← Rule.accept kinds.contains with
        | some token => return .token token
        | none => return .nothing
  | .expect kind message => session.run (.token <$> Rule.expect kind (.stated message))
  | .read phrase =>
      (session.startOf phrase).run do
        match ← phrase.rule with
        | some node => return .node node
        | none => return .nothing

/-- Answer requests one after another. -/
def answers (session : Session) : List Request → List (Except Fault Reply × Session)
  | [] => []
  | request :: rest =>
      let answered := session.answer request
      answered :: answered.2.answers rest

end Session

end Lunette
