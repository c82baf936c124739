import Lunette.Index
import Lunette.Tree

/-!
# Trees as indented text

A tree is written with one node a line, parents before children.  A line is indented by two
spaces a level and holds the node's kind; a term's line also shows its token.  A level from
which a tree is asked for may be any integer, and not every one can be granted: it depends on
the room in memory which indentations are too long.
-/

namespace Lunette.Tree

/-- Two spaces a level; a level below zero has none. -/
def pad (level : Int) : Text :=
  List.replicate (2 * level.toNat) ' '

mutual

/-- The lines of a tree whose topmost node is at the given level. -/
def lines (level : Int) : Tree → List Text
  | .leaf token => [pad level ++ NodeKind.term.name ++ ' ' :: token.shown]
  | .branch kind children => (pad level ++ kind.name) :: linesAll (level + 1) children

/-- The lines of neighbouring trees at the given level. -/
def linesAll (level : Int) : List Tree → List Text
  | [] => []
  | tree :: rest => lines level tree ++ linesAll level rest

end

/-- The tree as text, from the given level on. -/
def dump (level : Int) (tree : Tree) : Text :=
  Text.joinLines (tree.lines level)

/-! ## Levels that are asked for -/

/-- Why a tree is not written from a level on. -/
inductive LevelFault where
  /-- The level is no index. -/
  | noIndex
  /-- The indentation has more characters than there are indices. -/
  | tooLong
  /-- The indentation has more characters than memory holds. -/
  | noRoom
  deriving DecidableEq

/-- The wording of why a tree is not written. -/
def LevelFault.message : LevelFault → Text
  | .noIndex => Index.noIndexMessage
  | .tooLong => "repeated string is too long".toList
  | .noRoom => []

/-- The fault of a line at the level, if there is one.  `room` is the least number of characters
that memory does not hold. -/
def levelFault? (room level : Int) : Option LevelFault :=
  if !Index.holds level then some .noIndex
  else if Index.greatest < 2 * level then some .tooLong
  else if room ≤ 2 * level then some .noRoom
  else none

/-- The fault of the first line that has one, in the text of a tree whose topmost node is at the
level. -/
def fault? (room level : Int) (tree : Tree) : Option LevelFault :=
  tree.rows.findSome? fun row => levelFault? room (level + row.depth)

/-- The tree as text from the level that is asked for. -/
def dumpAt (level : Int) (tree : Tree) (room : Int := 0x10000000000) : Except LevelFault Text :=
  match tree.fault? room level with
  | some fault => .error fault
  | none => .ok (tree.dump level)

end Lunette.Tree
