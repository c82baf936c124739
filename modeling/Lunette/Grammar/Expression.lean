import Lunette.Ast
import Lunette.Grammar.Cursor

/-!
# The grammar of expressions

```text
exp     := unary [binop unary]
unary   := unop unary | call | primary
call    := primary args
primary := nil | false | true | NUMBER | STRING | "(" exp ")" | name
args    := "(" [exp] ")"
```

An operand is a call exactly when a name is followed by an opening parenthesis.  Each rule
is given the rule for the expressions nested in it, so that it reads off the grammar line by
line; the knot is tied once, by a bound on the nesting.  A nested expression comes after a
token that has been read, so the number of tokens left is bound enough.
-/

namespace Lunette.Rule

open Ast

/-- Read the name of a variable. -/
def name : Rule Token :=
  expect .identifier .variableName

/-- Read a literal, an expression in parentheses, or a name. -/
def primaryWith (exp : Rule Exp) : Rule Primary := do
  match ← accept Kind.isLiteral with
  | some token => return .term token
  | none =>
      match ← accept (· = .openParen) with
      | some _ =>
          let inner ← exp
          let _ ← expect .closeParen .parenthesisEnd
          return .paren inner
      | none => return .term (← name)

/-- Read the arguments of a call. -/
def argsWith (exp : Rule Exp) : Rule Args := do
  let _ ← expect .openParen .argsStart
  match ← accept (· = .closeParen) with
  | some _ => return .empty
  | none =>
      let value ← exp
      let _ ← expect .closeParen .argsEnd
      return .one value

/-- Read a call. -/
def callWith (exp : Rule Exp) : Rule Call := do
  let callee ← primaryWith exp
  return .of callee (← argsWith exp)

/-- Read all prefix operators that stand at the cursor. -/
def unaryOperators : Rule (List Token) := do
  let cursor ← get
  set { cursor with rest := cursor.rest.dropWhile (·.kind.isUnaryOperator) }
  return cursor.rest.takeWhile (·.kind.isUnaryOperator)

/-- Read an operand that no prefix operator stands in front of. -/
def operandWith (exp : Rule Exp) : Rule Operand := do
  let cursor ← get
  if cursor.kind = .identifier ∧ cursor.nextKind = .openParen then
    return .call (← callWith exp)
  else
    return .primary (← primaryWith exp)

/-- The operand with prefix operators in front, the first of them outermost. -/
def underOperators (ops : List Token) (operand : Operand) : Unary :=
  ops.foldr (fun op inner => .prefixed op (.unary inner)) (.bare operand)

/-- Read an operand with any prefix operators. -/
def unaryWith (exp : Rule Exp) : Rule Unary := do
  let ops ← unaryOperators
  return underOperators ops (← operandWith exp)

/-- Read an expression. -/
def expWith (exp : Rule Exp) : Rule Exp := do
  let left ← unaryWith exp
  match ← accept Kind.isBinaryOperator with
  | some op => return .applied left op (← unaryWith exp)
  | none => return .single left

/-- Read an expression from no more than the given number of tokens.  Where none is left, a
name is what is found missing. -/
def expWithin : Nat → Rule Exp
  | 0 => return .single (.bare (.primary (.term (← name))))
  | bound + 1 => expWith (expWithin bound)

/-- Read an expression. -/
def exp : Rule Exp := do
  expWithin (← get).rest.length

/-- Read an operand with any prefix operators. -/
def unary : Rule Unary := unaryWith exp

/-- Read a call. -/
def call : Rule Call := callWith exp

/-- Read a literal, an expression in parentheses, or a name. -/
def primary : Rule Primary := primaryWith exp

/-- Read the arguments of a call. -/
def args : Rule Args := argsWith exp

end Lunette.Rule
