import Lunette.Ast.Node
import Mathlib.Data.List.Forall2

/-!
# The written form of phrases

A phrase is written as a row of slots.  A slot either holds a token of the tree, or asks for
a token of a fixed kind, which the tree leaves out because the phrase says where it stands.
Tokens fill the row when each kept token stands in its place and each of the others has the
kind that is asked for.

The first word of a declaration and of a conditional statement is kept apart, because the
rules that read the two start behind it.
-/

namespace Lunette

/-- One place in the written form of a phrase. -/
inductive Slot where
  /-- Any token of the kind. -/
  | fixed (kind : Kind)
  /-- The token itself. -/
  | kept (token : Token)

namespace Slot

/-- The kind of token that stands in a slot. -/
def kind : Slot → Kind
  | .fixed kind => kind
  | .kept token => token.kind

/-- The token that a slot holds. -/
def token? : Slot → Option Token
  | .fixed _ => none
  | .kept token => some token

@[simp]
theorem filterMap_token?_fixed_cons (kind : Kind) (slots : List Slot) :
    (fixed kind :: slots).filterMap token? = slots.filterMap token? :=
  rfl

@[simp]
theorem filterMap_token?_kept_cons (token : Token) (slots : List Slot) :
    (kept token :: slots).filterMap token? = token :: slots.filterMap token? :=
  rfl

/-- Whether a token can stand in a slot. -/
def Takes : Slot → Token → Prop
  | .fixed kind, token => token.kind = kind
  | .kept own, token => token = own

theorem Takes.kind_eq {slot : Slot} {token : Token} (takes : slot.Takes token) :
    token.kind = slot.kind := by
  cases slot with
  | fixed kind => exact takes
  | kept own => exact congrArg Token.kind takes

/-! ## Rows of slots -/

/-- The tokens stand in the slots, one in each. -/
def Filled (slots : List Slot) (tokens : List Token) : Prop :=
  List.Forall₂ Takes slots tokens

@[simp]
theorem filled_nil_iff {tokens : List Token} : Filled [] tokens ↔ tokens = [] :=
  List.forall₂_nil_left_iff

@[simp]
theorem filled_cons_iff {slot : Slot} {slots : List Slot} {tokens : List Token} :
    Filled (slot :: slots) tokens ↔
      ∃ token rest, slot.Takes token ∧ Filled slots rest ∧ tokens = token :: rest :=
  List.forall₂_cons_left_iff

@[simp]
theorem filled_append_iff {first second : List Slot} {tokens : List Token} :
    Filled (first ++ second) tokens ↔
      ∃ front back, Filled first front ∧ Filled second back ∧ tokens = front ++ back := by
  induction first generalizing tokens with
  | nil => simp
  | cons slot first inductionHypothesis =>
      simp only [List.cons_append, filled_cons_iff, inductionHypothesis]
      constructor
      · rintro ⟨token, _, takes, ⟨front, back, filledFirst, filledSecond, rfl⟩, rfl⟩
        exact ⟨token :: front, back, ⟨token, front, takes, filledFirst, rfl⟩, filledSecond,
          rfl⟩
      · rintro ⟨_, back, ⟨token, front, takes, filledFirst, rfl⟩, filledSecond, rfl⟩
        exact ⟨token, front ++ back, takes, ⟨front, back, filledFirst, filledSecond, rfl⟩,
          rfl⟩

theorem Filled.append {first second : List Slot} {front back : List Token}
    (filledFirst : Filled first front) (filledSecond : Filled second back) :
    Filled (first ++ second) (front ++ back) :=
  filled_append_iff.mpr ⟨front, back, filledFirst, filledSecond, rfl⟩

theorem filled_parenthesized_iff {slots : List Slot} {tokens : List Token} :
    Filled (.fixed .openParen :: slots ++ [.fixed .closeParen]) tokens ↔
      ∃ opening inside closing, opening.kind = .openParen ∧ Filled slots inside ∧
        closing.kind = .closeParen ∧ tokens = opening :: (inside ++ [closing]) := by
  simp only [List.cons_append, filled_cons_iff, filled_append_iff, filled_nil_iff]
  constructor
  · rintro ⟨opening, _, isOpen, ⟨inside, _, filled, ⟨closing, _, isClose, rfl, rfl⟩, rfl⟩, rfl⟩
    exact ⟨opening, inside, closing, isOpen, filled, isClose, rfl⟩
  · rintro ⟨opening, inside, closing, isOpen, filled, isClose, rfl⟩
    exact ⟨opening, _, isOpen, ⟨inside, _, filled, ⟨closing, _, isClose, rfl, rfl⟩, rfl⟩, rfl⟩

theorem filled_valued_iff {target : Token} {slots : List Slot} {tokens : List Token} :
    Filled (.kept target :: .fixed .assign :: slots ++ [.fixed .semicolon]) tokens ↔
      ∃ sign inside closing, sign.kind = .assign ∧ Filled slots inside ∧
        closing.kind = .semicolon ∧ tokens = target :: sign :: (inside ++ [closing]) := by
  simp only [List.cons_append, filled_cons_iff, filled_append_iff, filled_nil_iff]
  constructor
  · rintro ⟨_, _, rfl, ⟨sign, _, isAssign, ⟨inside, _, filled, ⟨closing, _, isSemicolon, rfl,
      rfl⟩, rfl⟩, rfl⟩, rfl⟩
    exact ⟨sign, inside, closing, isAssign, filled, isSemicolon, rfl⟩
  · rintro ⟨sign, inside, closing, isAssign, filled, isSemicolon, rfl⟩
    exact ⟨target, _, rfl, ⟨sign, _, isAssign, ⟨inside, _, filled, ⟨closing, _, isSemicolon, rfl,
      rfl⟩, rfl⟩, rfl⟩, rfl⟩

/-- Tokens have the kinds of the slots that they stand in. -/
theorem Filled.map_kind {slots : List Slot} {tokens : List Token}
    (filled : Filled slots tokens) : tokens.map Token.kind = slots.map Slot.kind := by
  induction filled with
  | nil => rfl
  | cons takes _ inductionHypothesis =>
      simp only [List.map_cons, takes.kind_eq, inductionHypothesis]

end Slot

namespace Ast

/-! ## Expressions -/

mutual

/-- The written form of an expression. -/
def Exp.written : Exp → List Slot
  | .single left => left.written
  | .applied left op right => left.written ++ .kept op :: right.written

/-- The written form of an operand with or without a prefix operator. -/
def Unary.written : Unary → List Slot
  | .bare operand => operand.written
  | .prefixed op operand => .kept op :: operand.written

/-- The written form of what an operator applies to. -/
def Operand.written : Operand → List Slot
  | .unary inner => inner.written
  | .call inner => inner.written
  | .primary inner => inner.written

/-- The written form of a call. -/
def Call.written : Call → List Slot
  | .of callee args => callee.written ++ args.written

/-- The written form of a token or of an expression in parentheses. -/
def Primary.written : Primary → List Slot
  | .term token => [.kept token]
  | .paren inner => .fixed .openParen :: inner.written ++ [.fixed .closeParen]

/-- The written form of the arguments of a call. -/
def Args.written : Args → List Slot
  | .empty => [.fixed .openParen, .fixed .closeParen]
  | .one value => .fixed .openParen :: value.written ++ [.fixed .closeParen]

end

/-! ## Statements -/

/-- The word that a statement begins with, if its phrase has one. -/
def Stat.lead : Stat → List Slot
  | .declare _ _ => [.fixed .localWord]
  | .ifThen _ _ | .ifThenElse _ _ _ => [.fixed .ifWord]
  | .assign _ _ | .call _ => []

/-- The words that end a conditional statement. -/
def Stat.conditionalEnd : List Slot :=
  [.fixed .endWord, .fixed .semicolon]

mutual

/-- The written form of a statement without the word that it begins with. -/
def Stat.unled : Stat → List Slot
  | .declare target none => [.kept target, .fixed .semicolon]
  | .declare target (some value) | .assign target value =>
      .kept target :: .fixed .assign :: value.written ++ [.fixed .semicolon]
  | .call inner => inner.written ++ [.fixed .semicolon]
  | .ifThen condition body =>
      condition.written ++ .fixed .thenWord :: Stat.writtenAll body ++ conditionalEnd
  | .ifThenElse condition body other =>
      condition.written ++ .fixed .thenWord :: Stat.writtenAll body ++
        .fixed .elseWord :: Stat.writtenAll other ++ conditionalEnd

/-- The written form of statements in a row. -/
def Stat.writtenAll : List Stat → List Slot
  | [] => []
  | stat :: rest => stat.lead ++ stat.unled ++ Stat.writtenAll rest

end

/-- The written form of a statement. -/
def Stat.written (stat : Stat) : List Slot :=
  stat.lead ++ stat.unled

theorem Stat.filled_ifThen_iff {condition : Exp} {body : List Stat} {tokens : List Token} :
    Slot.Filled (Stat.ifThen condition body).unled tokens ↔
      ∃ first word second last, Slot.Filled condition.written first ∧ word.kind = .thenWord ∧
        Slot.Filled (Stat.writtenAll body) second ∧ Slot.Filled Stat.conditionalEnd last ∧
        tokens = first ++ word :: (second ++ last) := by
  simp only [Stat.unled, List.append_assoc, List.cons_append, Slot.filled_append_iff,
    Slot.filled_cons_iff]
  constructor
  · rintro ⟨first, _, condition, ⟨word, _, isThen, ⟨second, last, body, ending, rfl⟩, rfl⟩, rfl⟩
    exact ⟨first, word, second, last, condition, isThen, body, ending, rfl⟩
  · rintro ⟨first, word, second, last, condition, isThen, body, ending, rfl⟩
    exact ⟨first, _, condition, ⟨word, _, isThen, ⟨second, last, body, ending, rfl⟩, rfl⟩, rfl⟩

theorem Stat.filled_ifThenElse_iff {condition : Exp} {body other : List Stat}
    {tokens : List Token} :
    Slot.Filled (Stat.ifThenElse condition body other).unled tokens ↔
      ∃ first word second choice third last, Slot.Filled condition.written first ∧
        word.kind = .thenWord ∧ Slot.Filled (Stat.writtenAll body) second ∧
        choice.kind = .elseWord ∧ Slot.Filled (Stat.writtenAll other) third ∧
        Slot.Filled Stat.conditionalEnd last ∧
        tokens = first ++ word :: (second ++ choice :: (third ++ last)) := by
  simp only [Stat.unled, List.append_assoc, List.cons_append, Slot.filled_append_iff,
    Slot.filled_cons_iff]
  constructor
  · rintro ⟨first, _, condition, ⟨word, _, isThen, ⟨second, _, body, ⟨choice, _, isElse,
      ⟨third, last, other, ending, rfl⟩, rfl⟩, rfl⟩, rfl⟩, rfl⟩
    exact ⟨first, word, second, choice, third, last, condition, isThen, body, isElse, other,
      ending, rfl⟩
  · rintro ⟨first, word, second, choice, third, last, condition, isThen, body, isElse, other,
      ending, rfl⟩
    exact ⟨first, _, condition, ⟨word, _, isThen, ⟨second, _, body, ⟨choice, _, isElse,
      ⟨third, last, other, ending, rfl⟩, rfl⟩, rfl⟩, rfl⟩, rfl⟩

/-- The written form of a program. -/
def Program.written (program : Program) : List Slot :=
  Stat.writtenAll program.block

/-- The written form of a node. -/
def Node.written : Node → List Slot
  | .term token => [.kept token]
  | .primary inner => inner.written
  | .args inner => inner.written
  | .call inner => inner.written
  | .unary inner => inner.written
  | .binary inner => inner.written
  | .exp inner => inner.written
  | .stat inner => inner.written
  | .block inner => Stat.writtenAll inner
  | .root inner => inner.written

end Ast

/-! ## Kept tokens are the terms of the tree -/

namespace Tree

/-- The tokens of the terms of a tree, in pre-order. -/
def terms (tree : Tree) : List Token :=
  tree.rows.filterMap Row.token?

mutual

private theorem terms_rowsFrom (depth other : Nat) : ∀ tree : Tree,
    (tree.rowsFrom depth).filterMap Row.token? = (tree.rowsFrom other).filterMap Row.token?
  | .leaf _ => rfl
  | .branch _ children => by
      simp only [rowsFrom, List.filterMap_cons]
      exact terms_rowsFromAll (depth + 1) (other + 1) children

private theorem terms_rowsFromAll (depth other : Nat) : ∀ trees : List Tree,
    (rowsFromAll depth trees).filterMap Row.token? =
      (rowsFromAll other trees).filterMap Row.token?
  | [] => rfl
  | tree :: rest => by
      simp only [rowsFromAll, List.filterMap_append]
      rw [terms_rowsFrom depth other tree, terms_rowsFromAll depth other rest]

end

@[simp]
theorem terms_leaf (token : Token) : (leaf token).terms = [token] :=
  rfl

@[simp]
theorem terms_branch (kind : NodeKind) (children : List Tree) :
    (branch kind children).terms = children.flatMap terms := by
  simp only [terms, rows, rowsFrom, List.filterMap_cons]
  induction children with
  | nil => rfl
  | cons child rest inductionHypothesis =>
      simp only [rowsFromAll, List.filterMap_append, List.flatMap_cons, inductionHypothesis]
      rw [terms_rowsFrom _ 0]
      rfl

end Tree

namespace Ast

mutual

/-- The terms of an expression are the tokens kept in its written form. -/
theorem Exp.terms_binaryTree : ∀ exp : Exp,
    exp.binaryTree.terms = exp.written.filterMap Slot.token?
  | .single left => by simp [Exp.binaryTree, Exp.written, left.terms_tree]
  | .applied left op right => by
      simp [Exp.binaryTree, Exp.written, left.terms_tree, right.terms_tree]

theorem Unary.terms_tree : ∀ unary : Unary,
    unary.tree.terms = unary.written.filterMap Slot.token?
  | .bare operand => by simp [Unary.tree, Unary.written, operand.terms_tree]
  | .prefixed op operand => by
      simp [Unary.tree, Unary.written, operand.terms_tree]

theorem Operand.terms_tree : ∀ operand : Operand,
    operand.tree.terms = operand.written.filterMap Slot.token?
  | .unary inner => inner.terms_tree
  | .call inner => inner.terms_tree
  | .primary inner => inner.terms_tree

theorem Call.terms_tree : ∀ call : Call,
    call.tree.terms = call.written.filterMap Slot.token?
  | .of callee args => by
      simp [Call.tree, Call.written, callee.terms_tree, args.terms_tree]

theorem Primary.terms_tree : ∀ primary : Primary,
    primary.tree.terms = primary.written.filterMap Slot.token?
  | .term token => by simp [Primary.tree, Primary.written]
  | .paren inner => by
      simp [Primary.tree, Primary.written, inner.terms_binaryTree]

theorem Args.terms_tree : ∀ args : Args,
    args.tree.terms = args.written.filterMap Slot.token?
  | .empty => by simp [Args.tree, Args.written]
  | .one value => by
      simp [Args.tree, Args.written, value.terms_binaryTree]

end

theorem Exp.terms_tree (exp : Exp) : exp.tree.terms = exp.written.filterMap Slot.token? := by
  simp [Exp.tree, exp.terms_binaryTree]

@[simp]
theorem Stat.filterMap_token?_lead (stat : Stat) : stat.lead.filterMap Slot.token? = [] := by
  cases stat <;> rfl

mutual

theorem Stat.terms_tree : ∀ stat : Stat,
    stat.tree.terms = stat.unled.filterMap Slot.token?
  | .declare target none => by simp [Stat.tree, Stat.unled]
  | .declare target (some value) => by
      simp [Stat.tree, Stat.unled, value.terms_tree]
  | .assign target value => by
      simp [Stat.tree, Stat.unled, value.terms_tree]
  | .call inner => by simp [Stat.tree, Stat.unled, inner.terms_tree]
  | .ifThen condition body => by
      simp [Stat.tree, Stat.unled, Stat.conditionalEnd, condition.terms_tree,
        Stat.terms_trees body]
  | .ifThenElse condition body other => by
      simp [Stat.tree, Stat.unled, Stat.conditionalEnd, condition.terms_tree,
        Stat.terms_trees body, Stat.terms_trees other]

theorem Stat.terms_trees : ∀ stats : List Stat,
    (Stat.trees stats).flatMap Tree.terms = (Stat.writtenAll stats).filterMap Slot.token?
  | [] => rfl
  | stat :: rest => by
      simp [Stat.trees, Stat.writtenAll, stat.terms_tree, Stat.terms_trees rest]

end

/-- The terms of a node are the tokens kept in its written form. -/
theorem Node.terms_tree (node : Node) :
    node.tree.terms = node.written.filterMap Slot.token? := by
  cases node with
  | term token => rfl
  | primary inner => exact inner.terms_tree
  | args inner => exact inner.terms_tree
  | call inner => exact inner.terms_tree
  | unary inner => exact inner.terms_tree
  | binary inner => exact inner.terms_binaryTree
  | exp inner => exact inner.terms_tree
  | stat inner => simp [Node.tree, Node.written, Stat.written, inner.terms_tree]
  | block inner => simp [Node.tree, Node.written, Block.tree, Stat.terms_trees]
  | root inner =>
      simp [Node.tree, Node.written, Program.tree, Program.written, Block.tree,
        Stat.terms_trees]

end Ast

end Lunette
