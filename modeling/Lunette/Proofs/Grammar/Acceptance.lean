import Lunette.Proofs.Grammar.Sentence

/-!
# Which tokens are read as a program

Whether tokens are read as a program, and which way they fail if they are not, is told from
their kinds alone: the grammar decides, together with the rule that the end marker stands
last and nowhere else.
-/

namespace Lunette

namespace ClosedTokens

/-- A list can be taken as a closed one exactly when the kind of its last token is the end
marker's and that of no other token is; what holds of the kinds is the same on both sides. -/
theorem exists_ofList?_iff {tokens : List Token} (Holds : List Kind → Prop) :
    (∃ closed, ofList? tokens = some closed ∧ Holds (closed.body.map Token.kind)) ↔
      ∃ kinds, Kind.endOfInput ∉ kinds ∧ Holds kinds ∧
        tokens.map Token.kind = kinds ++ [.endOfInput] := by
  constructor
  · rintro ⟨closed, closedEq, holds⟩
    have notMember : Kind.endOfInput ∉ closed.body.map Token.kind := by
      intro member
      rcases List.mem_map.mp member with ⟨token, tokenMember, isEnd⟩
      exact closed.body_kind_ne token tokenMember isEnd
    have kindsEq : tokens.map Token.kind = closed.body.map Token.kind ++ [.endOfInput] := by
      rw [← toList_of_ofList? closedEq]
      simp [toList, closed.marker_kind]
    exact ⟨closed.body.map Token.kind, notMember, holds, kindsEq⟩
  · rintro ⟨kinds, notMember, holds, kindsEq⟩
    rcases List.map_eq_append_iff.mp kindsEq with ⟨body, back, rfl, rfl, backEq⟩
    rcases List.map_eq_singleton_iff.mp backEq with ⟨marker, rfl, isEnd⟩
    have bodyOpen : ∀ token ∈ body, token.kind ≠ .endOfInput := by
      intro token member isMarker
      exact notMember (isMarker ▸ List.mem_map_of_mem member)
    exact ⟨⟨body, marker, bodyOpen, isEnd⟩, ofList?_toList ⟨body, marker, bodyOpen, isEnd⟩,
      holds⟩

end ClosedTokens

namespace Ast.Program

open Grammar

theorem exists_ofTokens_eq_ok_iff {tokens : List Token} :
    (∃ program, ofTokens tokens = .ok program) ↔
      ∃ closed, ClosedTokens.ofList? tokens = some closed ∧
        Sentence (closed.body.map Token.kind) := by
  simp only [ofTokens_eq_ok_iff, sentence_iff_exists_spells]
  constructor
  · rintro ⟨program, closed, closedEq, spells⟩
    exact ⟨closed, closedEq, program, spells⟩
  · rintro ⟨closed, closedEq, program, spells⟩
    exact ⟨program, closed, closedEq, spells⟩

theorem ofTokens_eq_unclosed_iff {tokens : List Token} :
    ofTokens tokens = .error .unclosed ↔ ¬ ∃ closed, ClosedTokens.ofList? tokens = some closed := by
  unfold ofTokens
  cases ClosedTokens.ofList? tokens with
  | none => simp
  | some closed =>
      dsimp only
      cases read closed <;> simp

theorem exists_ofTokens_eq_parse_iff {tokens : List Token} :
    (∃ error, ofTokens tokens = .error (.parse error)) ↔
      ∃ closed, ClosedTokens.ofList? tokens = some closed ∧
        ¬ Sentence (closed.body.map Token.kind) := by
  have okIff := @exists_ofTokens_eq_ok_iff tokens
  unfold ofTokens at okIff ⊢
  cases closedEq : ClosedTokens.ofList? tokens with
  | none => simp
  | some closed =>
      simp only [closedEq, Option.some.injEq, exists_eq_left'] at okIff ⊢
      rw [← okIff]
      cases read closed <;> simp

/-- The kinds of tokens alone decide how the tokens are read: as a program if they are a
sentence with the end marker behind it, as an unclosed list if their last one is not the only
end marker, and with an error of the grammar in all other cases. -/
theorem ofTokens_by_kinds (tokens : List Token) :
    ((∃ program, ofTokens tokens = .ok program) ↔
      ∃ kinds, Sentence kinds ∧ tokens.map Token.kind = kinds ++ [.endOfInput]) ∧
    (ofTokens tokens = .error .unclosed ↔
      ¬ ∃ kinds, Kind.endOfInput ∉ kinds ∧
        tokens.map Token.kind = kinds ++ [.endOfInput]) ∧
    ((∃ error, ofTokens tokens = .error (.parse error)) ↔
      ∃ kinds, Kind.endOfInput ∉ kinds ∧ ¬ Sentence kinds ∧
        tokens.map Token.kind = kinds ++ [.endOfInput]) := by
  constructor
  · rw [exists_ofTokens_eq_ok_iff, ClosedTokens.exists_ofList?_iff]
    constructor
    · rintro ⟨kinds, -, sentence, kindsEq⟩
      exact ⟨kinds, sentence, kindsEq⟩
    · rintro ⟨kinds, sentence, kindsEq⟩
      exact ⟨kinds, sentence.endOfInput_notMem, sentence, kindsEq⟩
  constructor
  · have closedIff := @ClosedTokens.exists_ofList?_iff tokens fun _ => True
    simp only [and_true, true_and] at closedIff
    rw [ofTokens_eq_unclosed_iff, closedIff]
  · rw [exists_ofTokens_eq_parse_iff]
    exact ClosedTokens.exists_ofList?_iff fun kinds => ¬ Sentence kinds

end Ast.Program

end Lunette
