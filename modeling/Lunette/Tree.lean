import Lunette.Token

/-!
# Trees

Every part of a program has a uniform view: a leaf that holds one token, or a branch with a
kind and children in grammar order.  The module holds the view, its pre-order listing and
the test for equality.
-/

namespace Lunette

/-- The kinds of nodes. -/
inductive NodeKind where
  | root | block
  | declaration | conditional | assignment | callStatement
  | term | exp | binary | unary | call | primary | args
  deriving DecidableEq

namespace NodeKind

/-- All kinds, in their listing order. -/
def all : List NodeKind :=
  [.root, .block, .declaration, .conditional, .assignment, .callStatement,
   .term, .exp, .binary, .unary, .call, .primary, .args]

/-- The name under which a kind is shown. -/
def name : NodeKind → Text
  | .root => "root".toList
  | .block => "block".toList
  | .declaration => "varstat".toList
  | .conditional => "ifstat".toList
  | .assignment => "assignstat".toList
  | .callStatement => "funcallstat".toList
  | .term => "term".toList
  | .exp => "exp".toList
  | .binary => "binary".toList
  | .unary => "unary".toList
  | .call => "functioncall".toList
  | .primary => "primary".toList
  | .args => "args".toList

/-- The name in capital letters, as in a list of constants. -/
def constantName (kind : NodeKind) : Text :=
  kind.name.map Char.toUpper

end NodeKind

/-- The uniform view of a part of a program. -/
inductive Tree where
  /-- A term, which holds one token. -/
  | leaf (token : Token)
  /-- Any other node, with its children in grammar order. -/
  | branch (kind : NodeKind) (children : List Tree)

namespace Tree

/-- The kind of the topmost node. -/
def kind : Tree → NodeKind
  | .leaf _ => .term
  | .branch kind _ => kind

/-- The children of the topmost node. -/
def children : Tree → List Tree
  | .leaf _ => []
  | .branch _ children => children

/-- The token that the topmost node holds. -/
def token? : Tree → Option Token
  | .leaf token => some token
  | .branch _ _ => none

mutual

/-- Equality of trees is decided node by node. -/
def decEq : (left right : Tree) → Decidable (left = right)
  | .leaf first, .leaf second => decidable_of_iff (first = second) (by simp)
  | .leaf _, .branch _ _ => isFalse (by simp)
  | .branch _ _, .leaf _ => isFalse (by simp)
  | .branch kind children, .branch kind' children' =>
      have := decEqAll children children'
      decidable_of_iff (kind = kind' ∧ children = children') (by simp)

/-- Equality of lists of trees is decided tree by tree. -/
def decEqAll : (left right : List Tree) → Decidable (left = right)
  | [], [] => isTrue rfl
  | [], _ :: _ => isFalse (by simp)
  | _ :: _, [] => isFalse (by simp)
  | tree :: rest, tree' :: rest' =>
      have := decEq tree tree'
      have := decEqAll rest rest'
      decidable_of_iff (tree = tree' ∧ rest = rest') (by simp)

end

instance : DecidableEq Tree := decEq

/-! ## Pre-order listing -/

/-- A node in a pre-order listing. -/
structure Row where
  /-- The number of nodes above the node. -/
  depth : Nat
  /-- The kind of the node. -/
  kind : NodeKind
  /-- The token of a term. -/
  token? : Option Token
  deriving DecidableEq

mutual

/-- The nodes of a tree whose topmost node is at the given depth, parents before children. -/
def rowsFrom (depth : Nat) : Tree → List Row
  | .leaf token => [⟨depth, .term, some token⟩]
  | .branch kind children => ⟨depth, kind, none⟩ :: rowsFromAll (depth + 1) children

/-- The nodes of neighbouring trees at the given depth. -/
def rowsFromAll (depth : Nat) : List Tree → List Row
  | [] => []
  | tree :: rest => rowsFrom depth tree ++ rowsFromAll depth rest

end

/-- The nodes of a tree, parents before children. -/
def rows (tree : Tree) : List Row :=
  tree.rowsFrom 0

end Tree

end Lunette
