import Lunette.Ast.Node
import Lunette.Proofs.Phrase.Map
import Lunette.Proofs.Tree.Rows

/-!
# Trees tell phrases apart

The uniform view of a node leaves out nothing: a tree belongs to one node at most.  Parts
that are absent leave no child, so it is the number of children that tells them, and a block
without statements is still a child.  The tree of a node goes along with its tokens.
-/

namespace Lunette.Ast

/-! ## Trees go along with other tokens -/

section Map

variable (function : Token → Token)

mutual

theorem Exp.binaryTree_map : ∀ exp : Exp,
    (exp.map function).binaryTree = exp.binaryTree.map function
  | .single left => by
      simp only [Exp.map, Exp.binaryTree, left.tree_map, Tree.map, Tree.mapAll]
  | .applied left op right => by
      simp only [Exp.map, Exp.binaryTree, left.tree_map, right.tree_map, Tree.map, Tree.mapAll]

theorem Unary.tree_map : ∀ unary : Unary,
    (unary.map function).tree = unary.tree.map function
  | .bare operand => by
      simp only [Unary.map, Unary.tree, operand.tree_map, Tree.map, Tree.mapAll]
  | .prefixed op operand => by
      simp only [Unary.map, Unary.tree, operand.tree_map, Tree.map, Tree.mapAll]

theorem Operand.tree_map : ∀ operand : Operand,
    (operand.map function).tree = operand.tree.map function
  | .unary inner => inner.tree_map
  | .call inner => inner.tree_map
  | .primary inner => inner.tree_map

theorem Call.tree_map : ∀ call : Call, (call.map function).tree = call.tree.map function
  | .of callee args => by
      simp only [Call.map, Call.tree, callee.tree_map, args.tree_map, Tree.map, Tree.mapAll]

theorem Primary.tree_map : ∀ primary : Primary,
    (primary.map function).tree = primary.tree.map function
  | .term _ => rfl
  | .paren inner => by
      simp only [Primary.map, Primary.tree, inner.binaryTree_map, Tree.map, Tree.mapAll]

theorem Args.tree_map : ∀ args : Args, (args.map function).tree = args.tree.map function
  | .empty => rfl
  | .one value => by
      simp only [Args.map, Args.tree, value.binaryTree_map, Tree.map, Tree.mapAll]

end

theorem Exp.tree_map (exp : Exp) : (exp.map function).tree = exp.tree.map function := by
  simp only [Exp.tree, exp.binaryTree_map, Tree.map, Tree.mapAll]

mutual

theorem Stat.tree_map : ∀ stat : Stat, (stat.map function).tree = stat.tree.map function
  | .declare _ none => rfl
  | .declare _ (some value) | .assign _ value => by
      simp only [Stat.map, Option.map_some, Stat.tree, value.tree_map, Tree.map, Tree.mapAll]
  | .call inner => by
      simp only [Stat.map, Stat.tree, inner.tree_map, Tree.map, Tree.mapAll]
  | .ifThen condition body => by
      simp only [Stat.map, Stat.tree, condition.tree_map, Stat.trees_mapAll body, Tree.map,
        Tree.mapAll]
  | .ifThenElse condition body other => by
      simp only [Stat.map, Stat.tree, condition.tree_map, Stat.trees_mapAll body,
        Stat.trees_mapAll other, Tree.map, Tree.mapAll]

theorem Stat.trees_mapAll : ∀ stats : List Stat,
    Stat.trees (Stat.mapAll function stats) = Tree.mapAll function (Stat.trees stats)
  | [] => rfl
  | stat :: rest => by
      rw [Stat.mapAll, Stat.trees, Stat.trees, stat.tree_map, Stat.trees_mapAll rest, Tree.mapAll]

end

/-- The node with the other tokens. -/
def Node.map : Node → Node
  | .term token => .term (function token)
  | .primary inner => .primary (inner.map function)
  | .args inner => .args (inner.map function)
  | .call inner => .call (inner.map function)
  | .unary inner => .unary (inner.map function)
  | .binary inner => .binary (inner.map function)
  | .exp inner => .exp (inner.map function)
  | .stat inner => .stat (inner.map function)
  | .block inner => .block (Stat.mapAll function inner)
  | .root inner => .root (inner.map function)

theorem Block.tree_mapAll (block : Block) :
    Block.tree (Stat.mapAll function block) = (Block.tree block).map function := by
  rw [Block.tree, Block.tree, Stat.trees_mapAll, Tree.map]

/-- The tree of a node goes along with its tokens. -/
theorem Node.tree_map (node : Node) : (node.map function).tree = node.tree.map function := by
  cases node with
  | term token => rfl
  | primary inner => exact inner.tree_map function
  | args inner => exact inner.tree_map function
  | call inner => exact inner.tree_map function
  | unary inner => exact inner.tree_map function
  | binary inner => exact inner.binaryTree_map function
  | exp inner => exact inner.tree_map function
  | stat inner => exact inner.tree_map function
  | block inner => exact Block.tree_mapAll function inner
  | root inner =>
      change Tree.branch .root [Block.tree (Stat.mapAll function inner.block)] = _
      rw [Block.tree_mapAll]
      rfl

end Map

/-! ## One node only -/

@[simp]
theorem Exp.kind_binaryTree (exp : Exp) : exp.binaryTree.kind = .binary := by
  cases exp <;> rfl

@[simp]
theorem Unary.kind_tree (unary : Unary) : unary.tree.kind = .unary := by
  cases unary <;> rfl

@[simp]
theorem Call.kind_tree (call : Call) : call.tree.kind = .call := by
  cases call
  rfl

@[simp]
theorem Primary.kind_tree (primary : Primary) : primary.tree.kind = .primary := by
  cases primary <;> rfl

@[simp]
theorem Args.kind_tree (args : Args) : args.tree.kind = .args := by
  cases args <;> rfl

@[simp]
theorem Exp.kind_tree (exp : Exp) : exp.tree.kind = .exp :=
  rfl

/-- Trees of different kinds are different. -/
theorem ne_of_kind_ne {first second : Tree} (different : first.kind ≠ second.kind) :
    first ≠ second :=
  fun same => different (congrArg Tree.kind same)

mutual

theorem Exp.eq_of_binaryTree : ∀ {first second : Exp},
    first.binaryTree = second.binaryTree → first = second
  | .single left, .single left', same => by
      simp only [Exp.binaryTree, Tree.branch.injEq, List.cons.injEq, and_true, true_and] at same
      rw [Unary.eq_of_tree same]
  | .single _, .applied _ _ _, same => by simp [Exp.binaryTree] at same
  | .applied _ _ _, .single _, same => by simp [Exp.binaryTree] at same
  | .applied left op right, .applied left' op' right', same => by
      simp only [Exp.binaryTree, Tree.branch.injEq, List.cons.injEq, Tree.leaf.injEq, and_true,
        true_and] at same
      rw [Unary.eq_of_tree same.1, same.2.1, Unary.eq_of_tree same.2.2]

theorem Unary.eq_of_tree : ∀ {first second : Unary}, first.tree = second.tree → first = second
  | .bare operand, .bare operand', same => by
      simp only [Unary.tree, Tree.branch.injEq, List.cons.injEq, and_true, true_and] at same
      rw [Operand.eq_of_tree same]
  | .bare _, .prefixed _ _, same => by simp [Unary.tree] at same
  | .prefixed _ _, .bare _, same => by simp [Unary.tree] at same
  | .prefixed op operand, .prefixed op' operand', same => by
      simp only [Unary.tree, Tree.branch.injEq, List.cons.injEq, Tree.leaf.injEq, and_true,
        true_and] at same
      rw [same.1, Operand.eq_of_tree same.2]

theorem Operand.eq_of_tree : ∀ {first second : Operand},
    first.tree = second.tree → first = second
  | .unary _, .unary _, same => congrArg Operand.unary (Unary.eq_of_tree same)
  | .call _, .call _, same => congrArg Operand.call (Call.eq_of_tree same)
  | .primary _, .primary _, same => congrArg Operand.primary (Primary.eq_of_tree same)
  | .unary _, .call _, same => absurd same (ne_of_kind_ne (by simp [Operand.tree]))
  | .unary _, .primary _, same => absurd same (ne_of_kind_ne (by simp [Operand.tree]))
  | .call _, .unary _, same => absurd same (ne_of_kind_ne (by simp [Operand.tree]))
  | .call _, .primary _, same => absurd same (ne_of_kind_ne (by simp [Operand.tree]))
  | .primary _, .unary _, same => absurd same (ne_of_kind_ne (by simp [Operand.tree]))
  | .primary _, .call _, same => absurd same (ne_of_kind_ne (by simp [Operand.tree]))

theorem Call.eq_of_tree : ∀ {first second : Call}, first.tree = second.tree → first = second
  | .of callee args, .of callee' args', same => by
      simp only [Call.tree, Tree.branch.injEq, List.cons.injEq, and_true, true_and] at same
      rw [Primary.eq_of_tree same.1, Args.eq_of_tree same.2]

theorem Primary.eq_of_tree : ∀ {first second : Primary},
    first.tree = second.tree → first = second
  | .term _, .term _, same => by simpa [Primary.tree] using same
  | .term _, .paren _, same => by simp [Primary.tree] at same
  | .paren _, .term _, same => by simp [Primary.tree] at same
  | .paren inner, .paren inner', same => by
      simp only [Primary.tree, Tree.branch.injEq, List.cons.injEq, and_true, true_and] at same
      rw [Exp.eq_of_binaryTree same]

theorem Args.eq_of_tree : ∀ {first second : Args}, first.tree = second.tree → first = second
  | .empty, .empty, _ => rfl
  | .empty, .one _, same => by simp [Args.tree] at same
  | .one _, .empty, same => by simp [Args.tree] at same
  | .one value, .one value', same => by
      simp only [Args.tree, Tree.branch.injEq, List.cons.injEq, and_true, true_and] at same
      rw [Exp.eq_of_binaryTree same]

end

theorem Exp.tree_inj {first second : Exp} : first.tree = second.tree ↔ first = second := by
  constructor
  · intro same
    simp only [Exp.tree, Tree.branch.injEq, List.cons.injEq, and_true, true_and] at same
    exact Exp.eq_of_binaryTree same
  · exact congrArg Exp.tree

mutual

theorem Stat.eq_of_tree : ∀ {first second : Stat}, first.tree = second.tree → first = second
  | .declare target none, second, same => by
      cases second with
      | declare target' value' => cases value' <;> simp_all [Stat.tree]
      | _ => simp [Stat.tree] at same
  | .declare target (some value), second, same => by
      cases second with
      | declare target' value' => cases value' <;> simp_all [Stat.tree, Exp.tree_inj]
      | _ => simp [Stat.tree] at same
  | .assign target value, second, same => by
      cases second with
      | assign target' value' => simp_all [Stat.tree, Exp.tree_inj]
      | declare target' value' => cases value' <;> simp [Stat.tree] at same
      | _ => simp [Stat.tree] at same
  | .call inner, second, same => by
      cases second with
      | call inner' =>
          simp only [Stat.tree, Tree.branch.injEq, List.cons.injEq, and_true, true_and] at same
          rw [Call.eq_of_tree same]
      | declare target' value' => cases value' <;> simp [Stat.tree] at same
      | _ => simp [Stat.tree] at same
  | .ifThen condition body, second, same => by
      cases second with
      | ifThen condition' body' =>
          simp only [Stat.tree, Tree.branch.injEq, List.cons.injEq, and_true, true_and] at same
          rw [Exp.tree_inj.mp same.1, Stat.eq_of_trees same.2]
      | declare target' value' => cases value' <;> simp [Stat.tree] at same
      | _ => simp [Stat.tree] at same
  | .ifThenElse condition body other, second, same => by
      cases second with
      | ifThenElse condition' body' other' =>
          simp only [Stat.tree, Tree.branch.injEq, List.cons.injEq, and_true, true_and] at same
          rw [Exp.tree_inj.mp same.1, Stat.eq_of_trees same.2.1, Stat.eq_of_trees same.2.2]
      | declare target' value' => cases value' <;> simp [Stat.tree] at same
      | _ => simp [Stat.tree] at same

theorem Stat.eq_of_trees : ∀ {first second : List Stat},
    Stat.trees first = Stat.trees second → first = second
  | [], [], _ => rfl
  | [], _ :: _, same => nomatch same
  | _ :: _, [], same => nomatch same
  | _ :: _, _ :: _, same => by
      simp only [Stat.trees, List.cons.injEq] at same
      rw [Stat.eq_of_tree same.1, Stat.eq_of_trees same.2]

end

/-- The kinds of statements. -/
def NodeKind.isStatement : NodeKind → Bool
  | .declaration | .conditional | .assignment | .callStatement => true
  | _ => false

@[simp]
theorem Stat.isStatement_kind_tree (stat : Stat) :
    NodeKind.isStatement stat.tree.kind = true := by
  cases stat with
  | declare target value => cases value <;> rfl
  | assign target value => rfl
  | call inner => rfl
  | ifThen condition body => rfl
  | ifThenElse condition body other => rfl

/-- Different nodes have different trees. -/
theorem Node.tree_injective : Function.Injective Node.tree := by
  intro first second same
  have kinds := congrArg Tree.kind same
  have classes := congrArg NodeKind.isStatement kinds
  cases first <;> cases second
  case term.term => exact congrArg Node.term (Tree.leaf.inj same)
  case primary.primary => exact congrArg Node.primary (Primary.eq_of_tree same)
  case args.args => exact congrArg Node.args (Args.eq_of_tree same)
  case call.call => exact congrArg Node.call (Call.eq_of_tree same)
  case unary.unary => exact congrArg Node.unary (Unary.eq_of_tree same)
  case binary.binary => exact congrArg Node.binary (Exp.eq_of_binaryTree same)
  case exp.exp => exact congrArg Node.exp (Exp.tree_inj.mp same)
  case stat.stat => exact congrArg Node.stat (Stat.eq_of_tree same)
  case block.block =>
    have trees := (Tree.branch.inj same).2
    exact congrArg Node.block (Stat.eq_of_trees trees)
  case root.root first second =>
    have blocks := (List.cons.inj (Tree.branch.inj same).2).1
    have trees := (Tree.branch.inj blocks).2
    rcases first with ⟨values⟩
    rcases second with ⟨others⟩
    have valuesEq : values = others := Stat.eq_of_trees trees
    rw [valuesEq]
  -- The trees are of different kinds, or only one of them is a statement's.
  all_goals
    simp only [Node.tree, Program.tree, Block.tree, Tree.kind_leaf, Tree.kind_branch,
      Primary.kind_tree, Args.kind_tree, Call.kind_tree, Unary.kind_tree, Exp.kind_binaryTree,
      Exp.kind_tree, Stat.isStatement_kind_tree] at kinds classes
    first
    | exact absurd kinds (by decide)
    | exact absurd classes (by decide)

end Lunette.Ast
