import Lunette.Token

/-!
# Programs as typed trees

Each phrase of the grammar has a type of its own, so a node holds only the parts that its
phrase has.  The operators and the target names are kept as tokens; keywords, parentheses,
signs of assignment and semicolons are not kept, because the phrase says where they stand.
-/

namespace Lunette.Ast

mutual

/-- An expression: one operand, or two of them around a binary operator. -/
inductive Exp where
  | single (left : Unary)
  | applied (left : Unary) (op : Token) (right : Unary)

/-- An operand as it stands, or behind a prefix operator. -/
inductive Unary where
  | bare (operand : Operand)
  | prefixed (op : Token) (operand : Operand)

/-- What an operator applies to. -/
inductive Operand where
  | unary (inner : Unary)
  | call (call : Call)
  | primary (primary : Primary)

/-- A call. -/
inductive Call where
  | of (callee : Primary) (args : Args)

/-- A single token, or an expression in parentheses. -/
inductive Primary where
  | term (token : Token)
  | paren (inner : Exp)

/-- What stands between the parentheses of a call. -/
inductive Args where
  | empty
  | one (value : Exp)

end

/-- A statement. -/
inductive Stat where
  /-- A name is declared, with or without a value. -/
  | declare (target : Token) (value : Option Exp)
  /-- A name is given a value. -/
  | assign (target : Token) (value : Exp)
  /-- A call stands alone. -/
  | call (call : Call)
  /-- The body depends on the condition. -/
  | ifThen (condition : Exp) (body : List Stat)
  /-- The condition chooses between two bodies. -/
  | ifThenElse (condition : Exp) (body other : List Stat)

/-- Statements in a row. -/
abbrev Block := List Stat

/-- A program is its outermost block. -/
structure Program where
  /-- The statements of the program. -/
  block : Block

/-! ## Expressions from their parts -/

/-- An expression has an operator and a right operand, or neither. -/
structure HalfBinary : Type where

/-- The wording of the fault. -/
def HalfBinary.message (_ : HalfBinary) : Text :=
  "Binary needs both an operator and a right operand, or neither".toList

/-- The expression that has the given parts. -/
def Exp.ofParts (left : Unary) : Option Token → Option Unary → Except HalfBinary Exp
  | none, none => .ok (.single left)
  | some op, some right => .ok (.applied left op right)
  | _, _ => .error ⟨⟩

end Lunette.Ast
