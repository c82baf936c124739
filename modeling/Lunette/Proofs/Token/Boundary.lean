import Lunette.Proofs.Token.Concatenation
import Lunette.Proofs.Token.Munch

/-!
# The boundary between two texts

Where a text that can be scanned stands in front of another one, the boundary between them is a
boundary of tokens exactly if the last token of the first text does not grow into the second
one.  Only three kinds of tokens can grow, each by characters of its own class, and only if
they reach up to the boundary.  At a boundary of tokens the scanning goes on as it would begin,
with moved places; a fault in the second text is moved in the same way.
-/

namespace Lunette

/-- Whatever maximal munch takes is the longest lexeme where it stands. -/
theorem Munches.longest {s : Text} {index : Nat} {outline : Outline}
    (munches : Munches s index outline) :
    ∀ entries, outline = .ok entries → ∀ entry ∈ entries, entry.1.kind ≠ .endOfInput →
      ∃ (start : Nat) (rest : Text), entry.2 = start ∧
        Lexeme.Longest (s.drop start) entry.1 rest := by
  induction munches with
  | finish =>
      rintro _ ⟨⟩ entry member notEnd
      rw [List.mem_singleton.mp member] at notEnd
      exact absurd rfl notEnd
  | skip _ _ _ inductionHypothesis => exact inductionHypothesis
  | @take index c lexeme rest outline _ _ longest _ inductionHypothesis =>
      intro entries entriesEq entry member notEnd
      cases outline with
      | error stuck => cases entriesEq
      | ok others =>
          cases entriesEq
          rcases List.mem_cons.mp member with rfl | inOthers
          · exact ⟨index, rest, rfl, longest⟩
          · exact inductionHypothesis others rfl entry inOthers notEnd
  | stuck _ _ _ => nofun

namespace Token

/-- A scanned token does not fuse with what stands behind it in the text. -/
theorem apart_of_scan {s : Text} {tokens : List Token} (scanEq : scan s = .ok tokens) :
    ∀ token ∈ tokens, token.kind ≠ .endOfInput →
      ∃ (start : Nat) (rest : Text), token.place.offset = start ∧
        s.drop start = token.toLexeme.spelling ++ rest ∧ token.toLexeme.Apart rest := by
  intro token member notEnd
  have munches := (munches_iff_scan s (outline (scan s))).1.mpr rfl
  have outlineEq : outline (scan s) =
      .ok (tokens.map fun token => (token.toLexeme, token.place.offset)) := by
    rw [scanEq]
    rfl
  obtain ⟨start, rest, startEq, longest⟩ :=
    munches.longest _ outlineEq _ (List.mem_map_of_mem member) notEnd
  exact ⟨start, rest, startEq, longest.split, longest.apart⟩

/-- If the tokens of a text are tokens of a longer one, the last of them has not grown. -/
theorem endsApart_of_scan_append {s t : Text} {body others : List Token}
    (solid : ∀ token ∈ body, token.kind ≠ .endOfInput)
    (wholeEq : scan (s ++ t) = .ok (body ++ others)) : EndsApart body s.length t := by
  intro last lastEq atEnd
  have inBody := List.mem_of_getLast? lastEq
  obtain ⟨start, rest, startEq, dropEq, apart⟩ :=
    apart_of_scan wholeEq last (List.mem_append_left _ inBody) (solid last inBody)
  have stopEq : start + last.toLexeme.spelling.length = s.length := by
    rw [length_spelling_toLexeme]
    omega
  have restEq : t = rest := by
    calc
      t = (s ++ t).drop (start + last.toLexeme.spelling.length) := by rw [stopEq, List.drop_left]
      _ = ((s ++ t).drop start).drop last.toLexeme.spelling.length := by rw [List.drop_drop]
      _ = rest := by rw [dropEq, List.drop_left]
  rw [restEq]
  exact apart

/-- Two texts in a row are scanned one after the other exactly if the last token of the first
one does not grow into the second one; a fault in the second one is then found as well. -/
theorem scan_append_eq_ok_iff {s t : Text} {tokens : List Token} (scanEq : scan s = .ok tokens) :
    (∀ others, scan t = .ok others →
      (scan (s ++ t) = .ok (tokens.dropLast ++ others.map (behind s)) ↔
        EndsApart tokens.dropLast s.length t)) ∧
    ∀ error, scan t = .error error → EndsApart tokens.dropLast s.length t →
      scan (s ++ t) = .error (error.behind s) := by
  obtain ⟨body, ending, rfl, valid⟩ := scanFrom_eq_ok scanEq
  rw [List.dropLast_concat]
  constructor
  · intro others othersEq
    constructor
    · have solid : ∀ token ∈ body, token.kind ≠ .endOfInput :=
        fun token member => (valid token member).kind_ne_endOfInput
      exact endsApart_of_scan_append solid
    · intro apart
      rw [scan_append scanEq apart, othersEq]
      rfl
  · intro error errorEq apart
    rw [scan_append scanEq apart, errorEq]
    rfl

/-- A text that ends with a number, on its second line. -/
def numbered : Text :=
  "if\n 12".toList

/-- The tokens of the text. -/
def numberedTokens : List Token :=
  [⟨.ifWord, ['i', 'f'], ⟨0, 1, 1⟩⟩, ⟨.number, ['1', '2'], ⟨4, 2, 2⟩⟩,
   ⟨.endOfInput, [], ⟨6, 2, 4⟩⟩]

/-- A letter behind the number is a token of its own, and a digit is not. -/
theorem scan_append_numbered :
    scan numbered = .ok numberedTokens ∧
      scan (numbered ++ ['a', '\n', '=']) = .ok
        [⟨.ifWord, ['i', 'f'], ⟨0, 1, 1⟩⟩, ⟨.number, ['1', '2'], ⟨4, 2, 2⟩⟩,
         ⟨.identifier, ['a'], ⟨6, 2, 4⟩⟩, ⟨.assign, ['='], ⟨8, 3, 1⟩⟩,
         ⟨.endOfInput, [], ⟨9, 3, 2⟩⟩] ∧
      scan (numbered ++ ['~']) = .error (.unexpectedCharacter '~' ⟨6, 2, 4⟩) ∧
      scan (numbered ++ ['3']) ≠ .ok
        [⟨.ifWord, ['i', 'f'], ⟨0, 1, 1⟩⟩, ⟨.number, ['1', '2'], ⟨4, 2, 2⟩⟩,
         ⟨.number, ['3'], ⟨6, 2, 4⟩⟩, ⟨.endOfInput, [], ⟨7, 2, 5⟩⟩] := by
  have scanEq : scan numbered = .ok numberedTokens := by decide +kernel
  have letterEq : scan ['a', '\n', '='] = .ok
      [⟨.identifier, ['a'], ⟨0, 1, 1⟩⟩, ⟨.assign, ['='], ⟨2, 2, 1⟩⟩,
       ⟨.endOfInput, [], ⟨3, 2, 2⟩⟩] := by decide +kernel
  have tildeEq : scan ['~'] = .error (.unexpectedCharacter '~' ⟨0, 1, 1⟩) := by decide +kernel
  have digitEq : scan ['3'] = .ok
      [⟨.number, ['3'], ⟨0, 1, 1⟩⟩, ⟨.endOfInput, [], ⟨1, 1, 2⟩⟩] := by decide +kernel
  have apart : ∀ d more, d.isDigit = false →
      EndsApart numberedTokens.dropLast numbered.length (d :: more) := by
    rintro d more notDigit last ⟨⟩ - _ ⟨⟩ fuses
    simp [Lexeme.Fuses, toLexeme, Kind.isWord, Kind.reservedWords, notDigit] at fuses
  have grows : ¬ EndsApart numberedTokens.dropLast numbered.length ['3'] := by
    intro apart
    exact apart _ rfl rfl '3' rfl (Or.inr (Or.inl ⟨rfl, rfl⟩))
  refine ⟨scanEq, ?_, ?_, ?_⟩
  · exact ((scan_append_eq_ok_iff scanEq).1 _ letterEq).mpr (apart _ _ rfl)
  · exact (scan_append_eq_ok_iff scanEq).2 _ tildeEq (apart _ _ rfl)
  · exact fun joinedEq => grows (((scan_append_eq_ok_iff scanEq).1 _ digitEq).mp joinedEq)

end Token

end Lunette
