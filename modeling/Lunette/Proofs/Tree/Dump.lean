import Lunette.Proofs.Program.RoundTrip
import Lunette.Proofs.Text.Quoted
import Lunette.Proofs.Text.Stretch
import Lunette.Proofs.Tree.Name
import Lunette.Proofs.Tree.Phrase
import Lunette.Tree.Dump

/-!
# The indented text tells nodes apart

The indented text of a tree has one line for every row of its pre-order listing, and the line
says all that the row does, whatever lexemes hold: a lexeme is quoted, so it neither breaks a
line nor looks like the end of one.  From a level of zero or more the depth of a row is seen
in its line, and the text of a node belongs to one node only, up to the places of its tokens.
-/

namespace Lunette

/-! ## Tokens -/

namespace Token

/-- How a token is shown where the printable code points are given. -/
def shownBy (printable : Char → Bool) (token : Token) : Text :=
  "Token(".toList ++
    (token.kind.name ++ ',' :: ' ' :: (Text.quotedBy printable token.lexeme ++ [')']))

theorem shown_eq_shownBy (token : Token) : token.shown = token.shownBy Text.isPrintable := by
  unfold shown shownBy
  rw [List.append_assoc, List.append_assoc, List.append_assoc, Text.quoted_eq_quotedBy]
  rfl

variable (printable : Char → Bool)

/-- Tokens that are shown alike are the same but for their places. -/
theorem unplaced_eq_of_shownBy {first second : Token}
    (same : first.shownBy printable = second.shownBy printable) :
    first.unplaced = second.unplaced := by
  unfold shownBy at same
  rcases Text.eq_of_append_cons (Kind.notMem_name rfl _) (Kind.notMem_name rfl _)
    (List.append_cancel_left same) with ⟨nameEq, behindEq⟩
  have quotedEq := List.append_cancel_right (List.cons.inj behindEq).2
  have kindEq := Kind.name_injective nameEq
  have lexemeEq := Text.quotedBy_injective printable quotedEq
  rw [unplaced, unplaced, kindEq, lexemeEq]

/-- Beside the blank and the graphic characters of ASCII there are only characters of the lexeme
in what is shown, and only printable ones that have no escape of their own. -/
theorem printable_of_mem_shownBy {token : Token} {c : Char}
    (notGraphic : Text.isGraphic c = false) (notBlank : c ≠ ' ')
    (member : c ∈ token.shownBy printable) :
    printable c = true ∧ c ≠ '\n' ∧ c ≠ '\r' ∧ c ≠ '\t' := by
  have graphic {s : Text} (all : s.all Text.isGraphic = true) : c ∉ s := by
    intro inText
    rw [List.all_eq_true.mp all c inText] at notGraphic
    cases notGraphic
  have notName : c ∉ token.kind.name := graphic (by cases token.kind <;> rfl)
  rcases List.mem_append.mp member with inFront | behind
  · exact absurd inFront (graphic rfl)
  rcases List.mem_append.mp behind with inName | behind
  · exact absurd inName notName
  rcases List.mem_cons.mp behind with isComma | behind
  · exact absurd (List.mem_singleton.mpr isComma) (graphic rfl)
  rcases List.mem_cons.mp behind with isBlank | behind
  · exact absurd isBlank notBlank
  rcases List.mem_append.mp behind with inQuoted | isLast
  · exact Text.printable_of_mem_quotedBy notGraphic inQuoted
  · exact absurd isLast (graphic rfl)

theorem newline_notMem_shownBy (token : Token) : '\n' ∉ token.shownBy printable :=
  fun member => (printable_of_mem_shownBy printable (by decide) (by decide) member).2.1 rfl

end Token

/-! ## Rows as lines -/

namespace Tree

namespace Row

/-- The line of a row, in the text of a tree whose topmost node is at the level. -/
def line (printable : Char → Bool) (level : Int) (row : Row) : Text :=
  List.replicate (2 * (level + row.depth).toNat) ' ' ++ row.kind.name ++
    match row.token? with
    | none => []
    | some token => ' ' :: token.shownBy printable

variable (printable : Char → Bool)

theorem newline_notMem_line (level : Int) (row : Row) : '\n' ∉ row.line printable level := by
  rcases row with ⟨depth, kind, token?⟩
  have notName : '\n' ∉ kind.name := kind.notMem_name rfl
  cases token? with
  | none => simp [line, notName]
  | some token => simp [line, notName, Token.newline_notMem_shownBy]

/-- The places of tokens are not seen in lines. -/
theorem line_map_unplaced (level : Int) (row : Row) :
    (row.map Token.unplaced).line printable level = row.line printable level := by
  rcases row with ⟨depth, kind, _ | token⟩
  · rfl
  · rfl

theorem head?_name_append_ne (kind : NodeKind) (s : Text) :
    (kind.name ++ s).head? ≠ some ' ' := by
  cases kind <;> exact fun isBlank => absurd (Option.some.inj isBlank) (by decide)

/-- From a level of zero or more, rows that have the same line are the same but for the places
of their tokens. -/
theorem map_unplaced_eq_of_line {level : Int} (notBelow : 0 ≤ level) {first second : Row}
    (same : first.line printable level = second.line printable level) :
    first.map Token.unplaced = second.map Token.unplaced := by
  rcases first with ⟨depth, kind, token?⟩
  rcases second with ⟨depth', kind', token?'⟩
  simp only [line, List.append_assoc] at same
  -- No name begins with a blank, so the indentation ends where the name begins.
  rcases Text.eq_of_replicate_append (head?_name_append_ne kind _)
    (head?_name_append_ne kind' _) same with ⟨indentEq, restEq⟩
  have depthEq : depth = depth' := by omega
  cases depthEq
  cases token? with
  | none =>
      cases token?' with
      | none =>
          rw [List.append_nil, List.append_nil] at restEq
          cases NodeKind.name_injective restEq
          rfl
      | some token' =>
          have hasBlank : ' ' ∈ kind.name := by
            rw [List.append_nil] at restEq
            rw [restEq]
            exact List.mem_append_right _ List.mem_cons_self
          exact absurd hasBlank (kind.notMem_name rfl)
  | some token =>
      cases token?' with
      | none =>
          have hasBlank : ' ' ∈ kind'.name := by
            rw [List.append_nil] at restEq
            rw [← restEq]
            exact List.mem_append_right _ List.mem_cons_self
          exact absurd hasBlank (kind'.notMem_name rfl)
      | some token' =>
          rcases Text.eq_of_append_cons (kind.notMem_name rfl) (kind'.notMem_name rfl)
            restEq with ⟨nameEq, shownEq⟩
          cases NodeKind.name_injective nameEq
          have tokenEq := Token.unplaced_eq_of_shownBy printable shownEq
          simp only [map, Option.map_some, tokenEq]

end Row

/-! ## The text of a tree -/

mutual

theorem lines_eq_map_line (level : Int) (depth : Nat) : ∀ tree : Tree,
    tree.lines (level + depth) = (tree.rowsFrom depth).map (Row.line Text.isPrintable level)
  | .leaf token => by
      rw [lines, rowsFrom, List.map_singleton, Row.line, Token.shown_eq_shownBy]
      rfl
  | .branch kind children => by
      have levelEq : level + depth + 1 = level + (depth + 1 : Nat) := by omega
      rw [lines, levelEq, linesAll_eq_map_line level (depth + 1) children, rowsFrom,
        List.map_cons, Row.line, List.append_nil]
      rfl

theorem linesAll_eq_map_line (level : Int) (depth : Nat) : ∀ trees : List Tree,
    linesAll (level + depth) trees =
      (rowsFromAll depth trees).map (Row.line Text.isPrintable level)
  | [] => rfl
  | tree :: rest => by
      rw [linesAll, rowsFromAll, List.map_append, lines_eq_map_line level depth tree,
        linesAll_eq_map_line level depth rest]

end

/-- The tree as text from the level on, where the printable code points are given: a line for
every row. -/
def dumpBy (printable : Char → Bool) (level : Int) (tree : Tree) : Text :=
  Text.joinLines (tree.rows.map (Row.line printable level))

theorem dump_eq_dumpBy (level : Int) (tree : Tree) :
    tree.dump level = tree.dumpBy Text.isPrintable level := by
  have linesEq := tree.lines_eq_map_line level 0
  rw [Int.natCast_zero, Int.add_zero] at linesEq
  rw [dump, dumpBy, linesEq, rows]

variable (printable : Char → Bool)

theorem rows_ne_nil (tree : Tree) : tree.rows ≠ [] := by
  cases tree <;> exact List.cons_ne_nil _ _

/-- Cut at its line feeds, the text of a tree is the lines of its rows. -/
theorem splitOn_dumpBy (level : Int) (tree : Tree) :
    (tree.dumpBy printable level).splitOn '\n' = tree.rows.map (Row.line printable level) := by
  apply List.splitOn_intercalate
  · intro line member
    rcases List.mem_map.mp member with ⟨row, -, rfl⟩
    exact Row.newline_notMem_line printable level row
  · exact fun none => rows_ne_nil tree (List.map_eq_nil_iff.mp none)

/-- The text of a tree does not show the places of its tokens. -/
theorem dumpBy_map_unplaced (level : Int) (tree : Tree) :
    (tree.map Token.unplaced).dumpBy printable level = tree.dumpBy printable level := by
  have lineEq : Row.line printable level ∘ Row.map Token.unplaced = Row.line printable level :=
    funext (Row.line_map_unplaced printable level)
  rw [dumpBy, dumpBy, rows_map, List.map_map, lineEq]

/-- Rows with the same lines, each the same but for the places of tokens. -/
theorem map_unplaced_eq_of_lines {level : Int} (notBelow : 0 ≤ level) {first second : List Row}
    (same : first.map (Row.line printable level) = second.map (Row.line printable level)) :
    first.map (Row.map Token.unplaced) = second.map (Row.map Token.unplaced) := by
  induction first generalizing second with
  | nil =>
      rw [List.map_eq_nil_iff.mp same.symm]
  | cons row rows inductionHypothesis =>
      rcases List.map_eq_cons_iff.mp same.symm with ⟨row', rows', rfl, lineEq, linesEq⟩
      rw [List.map_cons, List.map_cons, inductionHypothesis linesEq.symm,
        Row.map_unplaced_eq_of_line printable notBelow lineEq.symm]

/-- From a level of zero or more, trees with the same text are the same but for the places of
their tokens. -/
theorem dumpBy_eq_iff {level : Int} (notBelow : 0 ≤ level) {first second : Tree} :
    first.dumpBy printable level = second.dumpBy printable level ↔
      first.map Token.unplaced = second.map Token.unplaced := by
  constructor
  · intro same
    have linesEq := congrArg (List.splitOn '\n') same
    rw [splitOn_dumpBy, splitOn_dumpBy] at linesEq
    apply rows_injective
    rw [rows_map, rows_map]
    exact map_unplaced_eq_of_lines printable notBelow linesEq
  · intro same
    rw [← dumpBy_map_unplaced, same, dumpBy_map_unplaced]

/-! ## Levels that are granted -/

theorem levelFault?_eq_none_iff {room level : Int} :
    levelFault? room level = none ↔
      Index.least ≤ level ∧ 2 * level ≤ Index.greatest ∧ 2 * level < room := by
  constructor
  · intro granted
    unfold levelFault? at granted
    split_ifs at granted with noIndex tooLong noRoom
    have isIndex := Index.holds_iff.mp (by simpa using noIndex)
    exact ⟨isIndex.1, by omega, by omega⟩
  · rintro ⟨isIndex, notLong, fits⟩
    have leGreatest : level ≤ Index.greatest := by
      have greatest : 0 ≤ Index.greatest := by decide
      omega
    unfold levelFault?
    rw [Index.holds_iff.mpr ⟨isIndex, leGreatest⟩]
    rw [if_neg (by decide), if_neg (by omega), if_neg (by omega)]

/-- A level is granted if it is an index and there is room for the indentation of every line. -/
theorem fault?_eq_none {room level : Int} {tree : Tree} (isIndex : Index.least ≤ level)
    (fits : ∀ row ∈ tree.rows,
      2 * (level + row.depth) ≤ Index.greatest ∧ 2 * (level + row.depth) < room) :
    tree.fault? room level = none := by
  refine List.findSome?_eq_none_iff.mpr fun row member => ?_
  exact levelFault?_eq_none_iff.mpr ⟨by omega, fits row member⟩

/-- The places of tokens do not matter to the indentation. -/
theorem fault?_map_unplaced (room level : Int) (tree : Tree) :
    (tree.map Token.unplaced).fault? room level = tree.fault? room level := by
  rw [fault?, rows_map, List.findSome?_map]
  rfl

/-- The tree as text from the level that is asked for, where the printable code points are
given. -/
def dumpAtBy (printable : Char → Bool) (room level : Int) (tree : Tree) :
    Except LevelFault Text :=
  match tree.fault? room level with
  | some fault => .error fault
  | none => .ok (tree.dumpBy printable level)

theorem dumpAt_eq_dumpAtBy (room level : Int) (tree : Tree) :
    tree.dumpAt level room = tree.dumpAtBy Text.isPrintable room level := by
  unfold dumpAt dumpAtBy
  cases tree.fault? room level with
  | none => exact congrArg Except.ok (dump_eq_dumpBy level tree)
  | some fault => rfl

theorem dumpAtBy_map_unplaced (room level : Int) (tree : Tree) :
    (tree.map Token.unplaced).dumpAtBy printable room level =
      tree.dumpAtBy printable room level := by
  rw [dumpAtBy, fault?_map_unplaced, dumpBy_map_unplaced, dumpAtBy]

end Tree

/-! ## The text of a node -/

namespace Ast.Node

open Lunette.Tree

/-- From a level that is granted a node has a text, with a line for every row of its tree; and
from a level of zero or more the text tells the node, up to the places of its tokens.  This
holds for any set of printable code points and any room in memory. -/
theorem legible_dumpAt (printable : Char → Bool) {room level : Int}
    (isIndex : Index.least ≤ level) (node : Node)
    (fits : ∀ row ∈ node.tree.rows,
      2 * (level + row.depth) ≤ Index.greatest ∧ 2 * (level + row.depth) < room) :
    (∀ tree : Tree, tree.dumpAt level room = tree.dumpAtBy Text.isPrintable room level) ∧
      ∃ text, node.tree.dumpAtBy printable room level = .ok text ∧
        text.splitOn '\n' = node.tree.rows.map (Row.line printable level) ∧
        (0 ≤ level → ∀ other : Node, other.tree.dumpAtBy printable room level = .ok text ↔
          other.map Token.unplaced = node.map Token.unplaced) := by
  have textEq : node.tree.dumpAtBy printable room level =
      .ok (node.tree.dumpBy printable level) := by
    rw [dumpAtBy, fault?_eq_none isIndex fits]
  refine ⟨dumpAt_eq_dumpAtBy room level, _, textEq, ?_, fun notBelow other => ⟨?_, ?_⟩⟩
  · exact splitOn_dumpBy printable level node.tree
  · intro same
    rw [dumpAtBy] at same
    cases faultEq : other.tree.fault? room level with
    | some fault =>
        rw [faultEq] at same
        cases same
    | none =>
        rw [faultEq, Except.ok.injEq, dumpBy_eq_iff printable notBelow, ← tree_map,
          ← tree_map] at same
        exact tree_injective same
  · intro same
    rw [← dumpAtBy_map_unplaced, ← tree_map, same, tree_map, dumpAtBy_map_unplaced, textEq]

/-- A literal whose lexeme has a line feed in it, and a line that looks like one of a tree. -/
def brokenLiteral : Node :=
  .primary (.term ⟨.string, "a'\n  term".toList, ⟨4, 1, 5⟩⟩)

theorem legible_dumpAt_brokenLiteral :
    Index.least ≤ 1 ∧ (∀ row ∈ brokenLiteral.tree.rows,
        2 * (1 + (row.depth : Int)) ≤ Index.greatest ∧ 2 * (1 + (row.depth : Int)) < 100) ∧
      brokenLiteral.tree.dumpAt 1 100 =
        .ok "  primary\n    term Token(LITERAL_STR, \"a'\\n  term\")".toList ∧
      ∃ text, brokenLiteral.tree.dumpAtBy Text.isPrintable 100 1 = .ok text ∧
        text.splitOn '\n' = brokenLiteral.tree.rows.map (Row.line Text.isPrintable 1) ∧
        ∀ other : Node, other.tree.dumpAtBy Text.isPrintable 100 1 = .ok text ↔
          other.map Token.unplaced = brokenLiteral.map Token.unplaced := by
  have fits : ∀ row ∈ brokenLiteral.tree.rows,
      2 * (1 + (row.depth : Int)) ≤ Index.greatest ∧ 2 * (1 + (row.depth : Int)) < 100 := by
    decide
  have legible := @legible_dumpAt Text.isPrintable 100 1 (by decide) brokenLiteral fits
  rcases legible with ⟨-, text, textEq, lines, tells⟩
  exact ⟨by decide, fits, by decide, text, textEq, lines, tells (by decide)⟩

/-- Not every level is granted, however much room there is: one that is no index is refused,
although a level below zero takes no indentation, and so is one whose indentation is too long.
Where there is less room, a line may be refused that is not the first one. -/
theorem not_legible_at_every_level :
    (∀ room, (root ⟨[]⟩).tree.dumpAt (-0x8000000000000001) room = .error .noIndex ∧
      (root ⟨[]⟩).tree.dumpAt 0x4000000000000000 room = .error .tooLong) ∧
    (root ⟨[]⟩).tree.dumpAt 49 100 = .error .noRoom ∧
    ∀ room, ¬ ∀ (node : Node) (level : Int), ∃ text, node.tree.dumpAt level room = .ok text ∧
      text.splitOn '\n' = node.tree.rows.map (Row.line Text.isPrintable level) := by
  have refused (room : Int) :
      (root ⟨[]⟩).tree.dumpAt (-0x8000000000000001) room = .error .noIndex := rfl
  refine ⟨fun room => ⟨refused room, rfl⟩, by decide, fun room legible => ?_⟩
  rcases legible (root ⟨[]⟩) (-0x8000000000000001) with ⟨text, textEq, -⟩
  rw [refused] at textEq
  cases textEq

end Ast.Node

end Lunette
