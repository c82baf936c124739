import Lunette.Proofs.Reading.Naturality
import Lunette.Proofs.Reading.Program

/-!
# Programs are read by kinds

Tokens may be exchanged for others of the same kinds.  What is read of them is then the same
program with the other tokens in it, or the same error at the other token.
-/

namespace Lunette

open Ast

namespace ClosedTokens

/-- The changed tokens, which are of the same kinds. -/
def map (tokens : ClosedTokens) {function : Token → Token} (keeps : KeepsKinds function) :
    ClosedTokens where
  body := tokens.body.map function
  marker := function tokens.marker
  body_kind_ne token member := by
    obtain ⟨other, inBody, rfl⟩ := List.mem_map.mp member
    rw [keeps]
    exact tokens.body_kind_ne other inBody
  marker_kind := (keeps _).trans tokens.marker_kind

theorem toList_map (tokens : ClosedTokens) {function : Token → Token}
    (keeps : KeepsKinds function) : (tokens.map keeps).toList = tokens.toList.map function := by
  rw [toList, toList, List.map_append]
  rfl

end ClosedTokens

/-- The failure at the changed token. -/
def Failure.map (function : Token → Token) : Failure → Failure
  | .parse error => .parse (error.map function)
  | failure => failure

namespace Ast.Program

/-- What is read of changed tokens, from what is read of the others. -/
def carried (function : Token → Token) : Except Failure Program → Except Failure Program
  | .ok program => .ok (program.map function)
  | .error failure => .error (failure.map function)

theorem carried_eq_ok_iff {function : Token → Token} {result : Except Failure Program}
    {changed : Program} :
    carried function result = .ok changed ↔
      ∃ program, result = .ok program ∧ changed = program.map function := by
  cases result <;> simp [carried, eq_comm]

theorem carried_eq_parse_iff {function : Token → Token} {result : Except Failure Program}
    {changed : ParseError} :
    carried function result = .error (.parse changed) ↔
      ∃ error, result = .error (.parse error) ∧ changed = error.map function := by
  rcases result with (_ | _ | _) | _ <;> simp [carried, Failure.map, eq_comm]

/-- Changed tokens of the same kinds are read as the others are, with the changed tokens in what
has been read. -/
theorem ofTokens_map (tokens : ClosedTokens) {function : Token → Token}
    (keeps : KeepsKinds function) :
    ofTokens (tokens.toList.map function) = carried function (ofTokens tokens.toList) := by
  have follows : Rule.block.run (tokens.map keeps).start = _ :=
    Rule.Follows.block keeps tokens.start
  rw [← ClosedTokens.toList_map tokens keeps, ofTokens_toList, ofTokens_toList, follows]
  cases Rule.block.run tokens.start <;> rfl

end Ast.Program

end Lunette
