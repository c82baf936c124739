import Lunette.Proofs.Place.Counted
import Lunette.Proofs.Token.Scan

/-!
# Where scanning stops

Scanning that fails has come to a character at which no lexeme can be cut, and reports the
place of that character.  The character either begins no lexeme, or is a quote that no other
one follows.
-/

namespace Lunette

namespace Lexeme

variable {c d : Char} {s : Text}

theorem eq_of_cut_unexpected (cutEq : cut c s = .error (.unexpectedCharacter d)) : d = c := by
  have faultEq := eq_faultAt_of_cut cutEq
  unfold faultAt at faultEq
  split at faultEq
  · cases faultEq
  · cases faultEq
    rfl

/-- A string literal is not closed where no other quote follows. -/
theorem quote_of_cut_unterminated (cutEq : cut c s = .error .unterminatedString) :
    c = Text.doubleQuote ∧ Text.doubleQuote ∉ s := by
  have faultEq := eq_faultAt_of_cut cutEq
  unfold faultAt at faultEq
  split at faultEq
  · rename_i isQuote
    subst isQuote
    refine ⟨rfl, fun member => ?_⟩
    obtain ⟨text, rest, rfl, quoteless⟩ := List.eq_append_cons_of_mem member
    have offers : Offers (Text.doubleQuote :: (text ++ Text.doubleQuote :: rest))
        ⟨.string, text⟩ rest :=
      ⟨.string quoteless, by simp [spelling]⟩
    exact (cut_eq_error_iff.mp cutEq).1 _ _ offers
  · cases faultEq

end Lexeme

namespace Token

/-- At the index no lexeme can be cut, for the fault. -/
def StopsAt (s : Text) (fault : Lexeme.Fault) (index : Nat) : Prop :=
  ∃ c, s[index]? = some c ∧ Lexeme.isBlank c = false ∧
    Lexeme.cut c (s.drop (index + 1)) = .error fault

theorem StopsAt.lt_length {s : Text} {fault : Lexeme.Fault} {index : Nat}
    (stops : StopsAt s fault index) : index < s.length := by
  obtain ⟨c, here, -⟩ := stops
  exact (List.getElem?_eq_some_iff.mp here).1

/-- Scanning that fails reports the place at which it has stopped. -/
theorem stopsAt_of_scanFrom {s front back : Text} (split : s = front ++ back) :
    ∀ error, scanFrom (.ofIndex s front.length) back = .error error →
      ∃ fault index, StopsAt s fault index ∧ error = fault.located (.ofIndex s index) := by
  refine @scanFrom_along s (fun _ result => ∀ error, result = .error error →
    ∃ fault index, StopsAt s fault index ∧ error = fault.located (.ofIndex s index))
    ?ends ?skips ?stops ?cuts front back split
  case ends => nofun
  case skips =>
    intro _ _ _ _ _ _ behind
    exact behind
  case stops =>
    rintro front c back fault split solid cutEq _ ⟨⟩
    have here : s[front.length]? = some c := by simp [split]
    have behind : s.drop (front.length + 1) = back := by simp [split]
    exact ⟨fault, front.length, ⟨c, here, solid, behind ▸ cutEq⟩, rfl⟩
  case cuts =>
    intro _ _ _ _ _ result _ _ _ behind error errorEq
    cases result with
    | error found => exact behind error errorEq
    | ok others => cases errorEq

theorem stopsAt_of_scan {s : Text} {error : ScanError} (scanEq : scan s = .error error) :
    ∃ fault index, StopsAt s fault index ∧ error = fault.located (.ofIndex s index) :=
  @stopsAt_of_scanFrom s [] s rfl error scanEq

end Token

end Lunette
