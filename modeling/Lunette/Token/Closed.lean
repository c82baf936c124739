import Lunette.Token

/-!
# Closed token lists

A program is read from tokens that are closed by their only end marker.  A closed list keeps
the tokens in front of the marker and the marker apart, with the proof that the marker is
the only one.
-/

namespace Lunette

/-- Tokens that are closed by their only end marker. -/
structure ClosedTokens where
  /-- The tokens in front of the marker. -/
  body : List Token
  /-- The end marker. -/
  marker : Token
  /-- No token in front of the marker is an end marker. -/
  body_kind_ne : ∀ token ∈ body, token.kind ≠ .endOfInput
  /-- The marker is an end marker. -/
  marker_kind : marker.kind = .endOfInput

namespace ClosedTokens

/-- The tokens with their marker. -/
def toList (tokens : ClosedTokens) : List Token :=
  tokens.body ++ [tokens.marker]

/-- The number of tokens, the marker included. -/
def size (tokens : ClosedTokens) : Nat :=
  tokens.body.length + 1

theorem length_toList (tokens : ClosedTokens) : tokens.toList.length = tokens.size := by
  rw [toList, List.length_append, List.length_singleton, size]

/-- Take a list as a closed one, if its last token is its only end marker. -/
def ofList? (tokens : List Token) : Option ClosedTokens :=
  match dropEq : tokens.dropWhile (·.kind != .endOfInput) with
  | [marker] =>
      some
        { body := tokens.takeWhile (·.kind != .endOfInput)
          marker := marker
          body_kind_ne := fun token member => by
            have := List.all_takeWhile (p := (·.kind != .endOfInput)) (l := tokens)
            simpa using List.all_eq_true.mp this token member
          marker_kind := by
            have := List.head?_dropWhile_not (·.kind != .endOfInput) tokens
            simpa [dropEq] using this }
  | _ => none

/-- A list is the closed list that it is taken as. -/
theorem toList_of_ofList? {tokens : List Token} {closed : ClosedTokens}
    (closedEq : ofList? tokens = some closed) : closed.toList = tokens := by
  unfold ofList? at closedEq
  split at closedEq
  · rename_i marker dropEq
    cases closedEq
    have whole := List.takeWhile_append_dropWhile (p := (·.kind != .endOfInput)) (l := tokens)
    rwa [dropEq] at whole
  · cases closedEq

/-- Every closed list is taken back from its tokens. -/
theorem ofList?_toList (closed : ClosedTokens) : ofList? closed.toList = some closed := by
  obtain ⟨body, marker, bodyOpen, markerEnds⟩ := closed
  have passed : ∀ token ∈ body, (token.kind != .endOfInput) = true := by
    simpa using bodyOpen
  have dropEq : (body ++ [marker]).dropWhile (·.kind != .endOfInput) = [marker] := by
    rw [List.dropWhile_append_of_pos passed]
    simp [markerEnds]
  have takeEq : (body ++ [marker]).takeWhile (·.kind != .endOfInput) = body := by
    rw [List.takeWhile_append_of_pos passed]
    simp [markerEnds]
  unfold ofList? toList
  split
  · rename_i found foundEq
    simp_all
  · rename_i notSingle
    exact absurd dropEq (notSingle marker)

end ClosedTokens

end Lunette
