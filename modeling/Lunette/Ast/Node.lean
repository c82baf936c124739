import Lunette.Ast
import Lunette.Tree

/-!
# Nodes and their uniform view

A node is a phrase of any type.  The module gives every phrase its tree: absent parts leave
no child, and an expression has two levels of its own, the outer for the phrase and the
inner for its operands and operator.
-/

namespace Lunette.Ast

mutual

/-- The inner level of an expression. -/
def Exp.binaryTree : Exp → Tree
  | .single left => .branch .binary [left.tree]
  | .applied left op right => .branch .binary [left.tree, .leaf op, right.tree]

/-- The tree of an operand with or without a prefix operator. -/
def Unary.tree : Unary → Tree
  | .bare operand => .branch .unary [operand.tree]
  | .prefixed op operand => .branch .unary [.leaf op, operand.tree]

/-- The tree of what an operator applies to. -/
def Operand.tree : Operand → Tree
  | .unary inner => inner.tree
  | .call inner => inner.tree
  | .primary inner => inner.tree

/-- The tree of a call. -/
def Call.tree : Call → Tree
  | .of callee args => .branch .call [callee.tree, args.tree]

/-- The tree of a token or of an expression in parentheses. -/
def Primary.tree : Primary → Tree
  | .term token => .branch .primary [.leaf token]
  | .paren inner => .branch .primary [.branch .exp [inner.binaryTree]]

/-- The tree of the arguments of a call. -/
def Args.tree : Args → Tree
  | .empty => .branch .args []
  | .one value => .branch .args [.branch .exp [value.binaryTree]]

end

/-- The tree of an expression. -/
def Exp.tree (exp : Exp) : Tree :=
  .branch .exp [exp.binaryTree]

mutual

/-- The tree of a statement. -/
def Stat.tree : Stat → Tree
  | .declare target none => .branch .declaration [.leaf target]
  | .declare target (some value) => .branch .declaration [.leaf target, value.tree]
  | .assign target value => .branch .assignment [.leaf target, value.tree]
  | .call inner => .branch .callStatement [inner.tree]
  | .ifThen condition body =>
      .branch .conditional [condition.tree, .branch .block (Stat.trees body)]
  | .ifThenElse condition body other =>
      .branch .conditional
        [condition.tree, .branch .block (Stat.trees body), .branch .block (Stat.trees other)]

/-- The trees of statements in a row. -/
def Stat.trees : List Stat → List Tree
  | [] => []
  | stat :: rest => stat.tree :: Stat.trees rest

end

/-- The tree of a block. -/
def Block.tree (block : Block) : Tree :=
  .branch .block (Stat.trees block)

/-- The tree of a program. -/
def Program.tree (program : Program) : Tree :=
  .branch .root [Block.tree program.block]

/-- A phrase of any type.  An expression is a node at both of its levels. -/
inductive Node where
  | term (token : Token)
  | primary (primary : Primary)
  | args (args : Args)
  | call (call : Call)
  | unary (unary : Unary)
  | binary (exp : Exp)
  | exp (exp : Exp)
  | stat (stat : Stat)
  | block (block : Block)
  | root (program : Program)

/-- The tree of a node. -/
def Node.tree : Node → Tree
  | .term token => .leaf token
  | .primary inner => inner.tree
  | .args inner => inner.tree
  | .call inner => inner.tree
  | .unary inner => inner.tree
  | .binary inner => inner.binaryTree
  | .exp inner => inner.tree
  | .stat inner => inner.tree
  | .block inner => Block.tree inner
  | .root inner => inner.tree

end Lunette.Ast
