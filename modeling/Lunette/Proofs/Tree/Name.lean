import Lunette.Tree
import Mathlib.Data.List.Basic

/-!
# Names tell kinds apart

Kinds of tokens and kinds of nodes are shown by their names.  No two kinds share a name, and
no name has a blank, a comma or a line feed in it, so a name is read off the text that it
stands in.
-/

namespace Lunette

theorem Kind.ofName?_name (kind : Kind) : ofName? kind.name = some kind := by
  cases kind <;> rfl

theorem Kind.name_injective : Function.Injective Kind.name := by
  intro first second same
  have found := congrArg ofName? same
  rw [ofName?_name, ofName?_name] at found
  exact Option.some.inj found

/-- Token kinds are named in capital letters and underscores. -/
theorem Kind.notMem_name {c : Char} (other : (c.isUpper || c = '_') = false) (kind : Kind) :
    c ∉ kind.name := by
  have all : kind.name.all (fun c => c.isUpper || c = '_') = true := by
    cases kind <;> rfl
  intro member
  have isListed := List.all_eq_true.mp all c member
  rw [other] at isListed
  cases isListed

theorem NodeKind.name_injective : Function.Injective NodeKind.name := by
  intro first second same
  cases first <;> cases second <;> first
    | rfl
    | exact absurd same (by decide)

/-- Node kinds are named in small letters. -/
theorem NodeKind.notMem_name {c : Char} (other : c.isLower = false) (kind : NodeKind) :
    c ∉ kind.name := by
  have all : kind.name.all Char.isLower = true := by
    cases kind <;> rfl
  intro member
  have isListed := List.all_eq_true.mp all c member
  rw [other] at isListed
  cases isListed

end Lunette
