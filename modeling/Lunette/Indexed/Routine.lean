import Lunette.Indexed.Tokens

/-!
# Parsing by routines

Every phrase of the grammar has a routine.  What a routine does is written down as data: it takes
steps on single tokens and calls other routines, and goes on with what they return.  A loop is a
routine that calls itself to go round once more.  The data alone say nothing about how a call is
carried out, and nothing in their form says that calls come to an end.  Here they are carried out
up to a bound on how many of them wait for each other.
-/

namespace Lunette.Indexed

open Ast

/-- The routines of the parser. -/
inductive Routine where
  | block
  /-- One turn of the loop that reads the statements of a block, and the turns behind it. -/
  | stats
  | stat | declaration | conditional | assignment | callStatement
  | name | exp | binary | unary | call | primary | args
  deriving DecidableEq

/-- What a routine returns. -/
abbrev Routine.Value : Routine → Type
  | .block | .stats => Block
  | .stat => Option Stat
  | .declaration | .conditional | .assignment | .callStatement => Stat
  | .name => Token
  | .exp | .binary => Exp
  | .unary => Unary
  | .call => Call
  | .primary => Primary
  | .args => Args

/-- What is done to reach a value. -/
inductive Body (α : Type) : Type 1 where
  /-- The value is reached. -/
  | done (value : α)
  /-- Steps on single tokens come first. -/
  | step {β : Type} (steps : Parsing β) (onward : β → Body α)
  /-- A routine is called first. -/
  | call (routine : Routine) (onward : routine.Value → Body α)

namespace Body

variable {α β : Type}

/-- Go on with the value that is reached. -/
def bind : Body α → (α → Body β) → Body β
  | .done value, next => next value
  | .step steps onward, next => .step steps fun found => (onward found).bind next
  | .call routine onward, next => .call routine fun value => (onward value).bind next

instance : Monad Body where
  pure := .done
  bind := .bind

instance : MonadLift Parsing Body where
  monadLift steps := .step steps .done

theorem bind_done (code : Body α) : code.bind .done = code := by
  induction code with
  | done value => rfl
  | step steps onward inductionHypothesis => simp only [bind, inductionHypothesis]
  | call routine onward inductionHypothesis => simp only [bind, inductionHypothesis]

theorem bind_assoc {γ : Type} (code : Body α) (next : α → Body β) (last : β → Body γ) :
    (code.bind next).bind last = code.bind fun value => (next value).bind last := by
  induction code with
  | done value => rfl
  | step steps onward inductionHypothesis => simp only [bind, inductionHypothesis]
  | call routine onward inductionHypothesis => simp only [bind, inductionHypothesis]

instance : LawfulMonad Body :=
  LawfulMonad.mk' Body bind_done (fun _ _ => rfl) bind_assoc

/-- Reach the value, where calls are carried out as given. -/
def carry (calls : (routine : Routine) → Parsing routine.Value) : Body α → Parsing α
  | .done value => pure value
  | .step steps onward => steps >>= fun found => (onward found).carry calls
  | .call routine onward => calls routine >>= fun value => (onward value).carry calls

end Body

namespace Routine

/-- A bound on how many routines call each other in turn before a token is read. -/
def rank : Routine → Nat
  | .name => 0
  | .primary | .args => 1
  | .call => 2
  | .unary => 3
  | .binary => 4
  | .exp => 5
  | .declaration | .conditional | .assignment | .callStatement => 6
  | .stat => 7
  | .stats => 8
  | .block => 9

/-- The number of ranks. -/
def ranks : Nat := 10

/-- Call a routine. -/
def invoke (routine : Routine) : Body routine.Value :=
  .call routine .done

variable (tokens : List Token)

open Parsing in
/-- What a routine does. -/
def body : (routine : Routine) → Body routine.Value
  | .block => do
      openBlock
      let values ← stats.invoke
      closeBlock
      blockEnd tokens values
  | .stats => do
      match ← stat.invoke with
      | some first => return first :: (← stats.invoke)
      | none => return []
  | .stat => do
      match ← accept tokens (· = .localWord) with
      | some _ => return some (← declaration.invoke)
      | none =>
          match ← accept tokens (· = .ifWord) with
          | some _ => return some (← conditional.invoke)
          | none =>
              if ← atAssign tokens then
                return some (← assignment.invoke)
              else if ← check tokens fun kind => kind = .openParen ∨ kind = .identifier then
                return some (← callStatement.invoke)
              else
                return none
  | .declaration => do
      let target ← name.invoke
      let value ←
        match ← accept tokens (· = .assign) with
        | some _ => (do return some (← exp.invoke))
        | none => pure none
      let _ ← expect tokens .semicolon .statementEnd
      return .declare target value
  | .conditional => do
      let condition ← exp.invoke
      let _ ← expect tokens .thenWord .conditionEnd
      let body ← block.invoke
      match ← accept tokens (· = .elseWord) with
      | some _ =>
          let other ← block.invoke
          conditionalEnd tokens
          return .ifThenElse condition body other
      | none =>
          conditionalEnd tokens
          return .ifThen condition body
  | .assignment => do
      let target ← name.invoke
      let _ ← expect tokens .assign .assignmentSign
      let value ← exp.invoke
      let _ ← expect tokens .semicolon .statementEnd
      return .assign target value
  | .callStatement => do
      let inner ← call.invoke
      let _ ← expect tokens .semicolon .statementEnd
      return .call inner
  | .name => expect tokens .identifier .variableName
  | .exp => binary.invoke
  | .binary => do
      let left ← unary.invoke
      match ← accept tokens Kind.isBinaryOperator with
      | some op => build left (some op) (some (← unary.invoke))
      | none => build left none none
  | .unary => do
      match ← accept tokens Kind.isUnaryOperator with
      | some op => return .prefixed op (.unary (← unary.invoke))
      | none =>
          if ← atCall tokens then
            return .bare (.call (← call.invoke))
          else
            return .bare (.primary (← primary.invoke))
  | .call => do
      let callee ← primary.invoke
      return .of callee (← args.invoke)
  | .primary => do
      match ← accept tokens Kind.isLiteral with
      | some token => return .term token
      | none =>
          match ← accept tokens (· = .openParen) with
          | some _ =>
              let inner ← exp.invoke
              let _ ← expect tokens .closeParen .parenthesisEnd
              return .paren inner
          | none => return .term (← name.invoke)
  | .args => do
      let _ ← expect tokens .openParen .argsStart
      match ← accept tokens (· = .closeParen) with
      | some _ => return .empty
      | none =>
          let value ← exp.invoke
          let _ ← expect tokens .closeParen .argsEnd
          return .one value

/-- Carry out a routine.  With it fewer calls than the bound may wait for each other; one call
more is cut off. -/
def within : Nat → (routine : Routine) → Parsing routine.Value
  | 0, _ => Steps.cutOff
  | bound + 1, routine => (routine.body tokens).carry (within bound)

end Routine

/-- A call of a routine that has not returned. -/
structure Activation where
  /-- The routine that was called. -/
  routine : Routine
  /-- The index of the next token at the time of the call. -/
  entry : Nat

end Lunette.Indexed
