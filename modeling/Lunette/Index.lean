import Lunette.Text

/-!
# The range of indices

A number that counts places in a text or a list is a signed number of 64 bits wherever it
reaches the memory of a machine.  Positions and levels may be any integer; the module says
which of them are indices.
-/

namespace Lunette.Index

/-- The least index. -/
def least : Int := -0x8000000000000000

/-- The greatest index. -/
def greatest : Int := 0x7fffffffffffffff

/-- Whether an integer is an index. -/
def holds (n : Int) : Bool :=
  least ≤ n && n ≤ greatest

/-- The wording of an integer that is no index. -/
def noIndexMessage : Text :=
  "cannot fit 'int' into an index-sized integer".toList

theorem holds_iff {n : Int} : holds n = true ↔ least ≤ n ∧ n ≤ greatest := by
  simp [holds]

end Lunette.Index
