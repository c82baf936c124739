import Lunette.Tree
import Mathlib.Data.List.Basic

/-!
# Rows tell trees apart

A pre-order listing that shows the depth of every node has one tree only.  What comes behind
the rows of a tree is no deeper than the tree itself, so two listings agree tree by tree; the
induction carries the rows that follow along.

Rows go along with other tokens in the tree.
-/

namespace Lunette.Tree

theorem kind_leaf (token : Token) : (leaf token).kind = .term :=
  rfl

theorem kind_branch (kind : NodeKind) (children : List Tree) :
    (branch kind children).kind = kind :=
  rfl

/-! ## Trees with other tokens -/

mutual

/-- The tree with the other tokens. -/
def map (function : Token → Token) : Tree → Tree
  | .leaf token => .leaf (function token)
  | .branch kind children => .branch kind (mapAll function children)

/-- Neighbouring trees with the other tokens. -/
def mapAll (function : Token → Token) : List Tree → List Tree
  | [] => []
  | tree :: rest => tree.map function :: mapAll function rest

end

/-- The row with the other token. -/
def Row.map (function : Token → Token) (row : Row) : Row :=
  { row with token? := row.token?.map function }

mutual

theorem rowsFrom_map (function : Token → Token) (depth : Nat) : ∀ tree : Tree,
    (tree.map function).rowsFrom depth = (tree.rowsFrom depth).map (Row.map function)
  | .leaf _ => rfl
  | .branch kind children => by
      rw [map, rowsFrom, rowsFrom, rowsFromAll_mapAll function (depth + 1) children]
      rfl

theorem rowsFromAll_mapAll (function : Token → Token) (depth : Nat) : ∀ trees : List Tree,
    rowsFromAll depth (mapAll function trees) =
      (rowsFromAll depth trees).map (Row.map function)
  | [] => rfl
  | tree :: rest => by
      rw [mapAll, rowsFromAll, rowsFromAll, rowsFrom_map function depth tree,
        rowsFromAll_mapAll function depth rest, List.map_append]

end

theorem rows_map (function : Token → Token) (tree : Tree) :
    (tree.map function).rows = tree.rows.map (Row.map function) :=
  rowsFrom_map function 0 tree

/-! ## Where the rows of a tree end -/

/-- The rows begin with one above the depth, or there are none. -/
def StartAbove (depth : Nat) (rows : List Row) : Prop :=
  ∀ row ∈ rows.head?, row.depth < depth

theorem startAbove_nil (depth : Nat) : StartAbove depth [] := by
  simp [StartAbove]

theorem startAbove_cons {depth : Nat} {row : Row} {rows : List Row} :
    StartAbove depth (row :: rows) ↔ row.depth < depth := by
  simp [StartAbove]

theorem StartAbove.succ {depth : Nat} {rows : List Row} (above : StartAbove depth rows) :
    StartAbove (depth + 1) rows :=
  fun row first => Nat.lt_succ_of_lt (above row first)

/-- The rows of a tree begin at its depth. -/
theorem exists_rowsFrom (depth : Nat) (tree : Tree) :
    ∃ row rows, tree.rowsFrom depth = row :: rows ∧ row.depth = depth := by
  cases tree with
  | leaf token => exact ⟨_, _, rfl, rfl⟩
  | branch kind children => exact ⟨_, _, rfl, rfl⟩

theorem StartAbove.rowsFromAll_append {depth : Nat} {rest : List Row}
    (above : StartAbove depth rest) (trees : List Tree) :
    StartAbove (depth + 1) (rowsFromAll depth trees ++ rest) := by
  cases trees with
  | nil => exact above.succ
  | cons tree trees =>
      obtain ⟨row, rows, rowsEq, depthEq⟩ := exists_rowsFrom depth tree
      rw [rowsFromAll, rowsEq, List.append_assoc, List.cons_append]
      exact startAbove_cons.mpr (depthEq ▸ Nat.lt_succ_self _)

theorem not_startAbove_rowsFromAll (depth : Nat) (tree : Tree) (trees : List Tree)
    (rest : List Row) : ¬ StartAbove depth (rowsFromAll depth (tree :: trees) ++ rest) := by
  obtain ⟨row, rows, rowsEq, depthEq⟩ := exists_rowsFrom depth tree
  rw [rowsFromAll, rowsEq, List.append_assoc, List.cons_append, startAbove_cons, depthEq]
  exact Nat.lt_irrefl depth

/-! ## One tree only -/

mutual

theorem eq_of_rowsFrom_append {depth : Nat} : ∀ {first second : Tree} {rest other : List Row},
    StartAbove (depth + 1) rest → StartAbove (depth + 1) other →
    first.rowsFrom depth ++ rest = second.rowsFrom depth ++ other →
    first = second ∧ rest = other
  | .leaf _, .leaf _, _, _, _, _, same => by
      rcases List.cons_eq_cons.mp same with ⟨rowEq, restEq⟩
      exact ⟨congrArg leaf (Option.some.inj (congrArg Row.token? rowEq)), restEq⟩
  | .leaf _, .branch _ _, _, _, _, _, same =>
      nomatch congrArg Row.token? (List.cons_eq_cons.mp same).1
  | .branch _ _, .leaf _, _, _, _, _, same =>
      nomatch congrArg Row.token? (List.cons_eq_cons.mp same).1
  | .branch _ _, .branch _ _, _, _, restAbove, otherAbove, same => by
      rcases List.cons_eq_cons.mp same with ⟨rowEq, rowsEq⟩
      rcases eq_of_rowsFromAll_append restAbove otherAbove rowsEq with ⟨childrenEq, restEq⟩
      cases congrArg Row.kind rowEq
      cases childrenEq
      exact ⟨rfl, restEq⟩

theorem eq_of_rowsFromAll_append {depth : Nat} : ∀ {first second : List Tree}
    {rest other : List Row}, StartAbove depth rest → StartAbove depth other →
    rowsFromAll depth first ++ rest = rowsFromAll depth second ++ other →
    first = second ∧ rest = other
  | [], [], _, _, _, _, same => ⟨rfl, same⟩
  | [], tree :: trees, rest, other, restAbove, _, same => by
      change rest = _ at same
      rw [same] at restAbove
      exact absurd restAbove (not_startAbove_rowsFromAll depth tree trees other)
  | tree :: trees, [], rest, other, _, otherAbove, same => by
      change _ = other at same
      rw [← same] at otherAbove
      exact absurd otherAbove (not_startAbove_rowsFromAll depth tree trees rest)
  | tree :: trees, tree' :: trees', _, _, restAbove, otherAbove, same => by
      rw [rowsFromAll, rowsFromAll, List.append_assoc, List.append_assoc] at same
      rcases eq_of_rowsFrom_append (restAbove.rowsFromAll_append trees)
        (otherAbove.rowsFromAll_append trees') same with ⟨treeEq, behindEq⟩
      rcases eq_of_rowsFromAll_append restAbove otherAbove behindEq with ⟨treesEq, restEq⟩
      cases treeEq
      cases treesEq
      exact ⟨rfl, restEq⟩

end

/-- Different trees have different listings. -/
theorem rows_injective : Function.Injective rows := by
  intro first second same
  have appended : first.rowsFrom 0 ++ [] = second.rowsFrom 0 ++ [] := congrArg (· ++ []) same
  exact (eq_of_rowsFrom_append (startAbove_nil 1) (startAbove_nil 1) appended).1

end Lunette.Tree
