import Lunette.Proofs.Lexeme.Cut
import Lunette.Proofs.Place.Counted
import Lunette.Token.Closed
import Lunette.Token.Scan

/-!
# The steps of scanning

Scanning takes one of four steps: it ends, skips a blank, cuts a lexeme, or stops at a place
where no lexeme can be cut.  Each step has an equation of its own, and what holds of scanned
tokens is carried along these steps.
-/

namespace Lunette

namespace Place

@[simp]
theorem offset_after (place : Place) (c : Char) : (place.after c).offset = place.offset + 1 := by
  unfold after
  split <;> rfl

@[simp]
theorem offset_past (place : Place) (s : Text) :
    (place.past s).offset = place.offset + s.length := by
  induction s generalizing place with
  | nil => simp [past]
  | cons c s inductionHypothesis =>
      have step : place.past (c :: s) = (place.after c).past s := rfl
      rw [step, inductionHypothesis, offset_after, List.length_cons, Int.natCast_succ]
      omega

end Place

theorem Lexeme.Valid.kind_ne_endOfInput {lexeme : Lexeme} (valid : lexeme.Valid) :
    lexeme.kind ≠ .endOfInput := by
  cases valid with
  | mark listed =>
      have noEnd : ∀ lexeme ∈ Lexeme.marks, lexeme.kind ≠ .endOfInput := by decide
      exact noEnd _ listed
  | reserved listed =>
      have noEnd : ∀ entry ∈ Kind.reservedWords, entry.2 ≠ .endOfInput := by decide
      exact noEnd _ listed
  | string _ | number _ | identifier _ _ => nofun

namespace Token

/-- The lexeme that a token has been made of. -/
def toLexeme (token : Token) : Lexeme :=
  ⟨token.kind, token.lexeme⟩

variable {place : Place} {c : Char} {s rest : Text} {lexeme : Lexeme}

@[simp]
theorem scanFrom_nil : scanFrom place [] = .ok [endMarker place] := by
  rw [scanFrom]

theorem scanFrom_of_isBlank (blank : Lexeme.isBlank c = true) :
    scanFrom place (c :: s) = scanFrom (place.after c) s := by
  rw [scanFrom, if_pos blank]

theorem scanFrom_of_cut_ok (solid : Lexeme.isBlank c = false)
    (cutEq : Lexeme.cut c s = .ok (lexeme, rest)) :
    scanFrom place (c :: s) =
      (scanFrom (place.past lexeme.spelling) rest).map (ofLexeme lexeme place :: ·) := by
  rw [scanFrom]
  simp only [solid, Bool.false_eq_true, if_false]
  split
  · rename_i found
    rw [cutEq] at found
    cases found
  · rename_i found
    rw [cutEq] at found
    cases found
    rfl

theorem scanFrom_of_cut_error {fault : Lexeme.Fault} (solid : Lexeme.isBlank c = false)
    (cutEq : Lexeme.cut c s = .error fault) :
    scanFrom place (c :: s) = .error (fault.located place) := by
  rw [scanFrom]
  simp only [solid, Bool.false_eq_true, if_false]
  split
  · rename_i found
    rw [cutEq] at found
    cases found
    rfl
  · rename_i found
    rw [cutEq] at found
    cases found

/-- Scanned tokens are made by lexemes that there are, up to the end marker. -/
theorem scanFrom_eq_ok {tokens : List Token} (scanEq : scanFrom place s = .ok tokens) :
    ∃ body ending, tokens = body ++ [endMarker ending] ∧
      ∀ token ∈ body, token.toLexeme.Valid := by
  induction place, s using scanFrom.induct generalizing tokens with
  | case1 place =>
      rw [scanFrom_nil] at scanEq
      cases scanEq
      exact ⟨[], place, rfl, List.forall_mem_nil _⟩
  | case2 place c s blank inductionHypothesis =>
      rw [scanFrom_of_isBlank blank] at scanEq
      exact inductionHypothesis scanEq
  | case3 place c s notBlank fault cutEq =>
      rw [scanFrom_of_cut_error (Bool.eq_false_iff.mpr notBlank) cutEq] at scanEq
      cases scanEq
  | case4 place c s notBlank lexeme rest cutEq inductionHypothesis =>
      rw [scanFrom_of_cut_ok (Bool.eq_false_iff.mpr notBlank) cutEq] at scanEq
      cases restEq : scanFrom (place.past lexeme.spelling) rest with
      | error error =>
          rw [restEq] at scanEq
          cases scanEq
      | ok others =>
          rw [restEq] at scanEq
          cases scanEq
          rcases inductionHypothesis restEq with ⟨body, ending, rfl, valid⟩
          exact ⟨ofLexeme lexeme place :: body, ending, rfl,
            List.forall_mem_cons.mpr ⟨Lexeme.valid_of_cut cutEq, valid⟩⟩

/-- Every scanned token takes a character, except for the end marker. -/
theorem length_le_of_scanFrom {tokens : List Token} (scanEq : scanFrom place s = .ok tokens) :
    tokens.length ≤ s.length + 1 := by
  induction place, s using scanFrom.induct generalizing tokens with
  | case1 place =>
      rw [scanFrom_nil] at scanEq
      cases scanEq
      exact Nat.le_refl 1
  | case2 place c s blank inductionHypothesis =>
      rw [scanFrom_of_isBlank blank] at scanEq
      exact Nat.le_succ_of_le (inductionHypothesis scanEq)
  | case3 place c s notBlank fault cutEq =>
      rw [scanFrom_of_cut_error (Bool.eq_false_iff.mpr notBlank) cutEq] at scanEq
      cases scanEq
  | case4 place c s notBlank lexeme rest cutEq inductionHypothesis =>
      rw [scanFrom_of_cut_ok (Bool.eq_false_iff.mpr notBlank) cutEq] at scanEq
      cases restEq : scanFrom (place.past lexeme.spelling) rest with
      | error error =>
          rw [restEq] at scanEq
          cases scanEq
      | ok others =>
          rw [restEq] at scanEq
          cases scanEq
          have notMore := inductionHypothesis restEq
          have shorter := Lexeme.length_le_of_cut cutEq
          simp only [List.length_cons]
          omega

/-- Scanning goes along the text step by step.  What it gives from an index on is made of what
it gives behind the step, with the place that is counted for the index. -/
theorem scanFrom_along {s : Text} {Gives : Text → Except ScanError (List Token) → Prop}
    (ends : Gives s (.ok [endMarker (.ofIndex s s.length)]))
    (skips : ∀ front c back result, s = front ++ c :: back → Lexeme.isBlank c = true →
      Gives (front ++ [c]) result → Gives front result)
    (stops : ∀ front c back fault, s = front ++ c :: back → Lexeme.isBlank c = false →
      Lexeme.cut c back = .error fault →
        Gives front (.error (fault.located (.ofIndex s front.length))))
    (cuts : ∀ front c back lexeme rest result, s = front ++ c :: back →
      Lexeme.isBlank c = false → Lexeme.cut c back = .ok (lexeme, rest) →
        Gives (front ++ lexeme.spelling) result →
          Gives front (result.map (ofLexeme lexeme (.ofIndex s front.length) :: ·)))
    {front back : Text} (split : s = front ++ back) :
    Gives front (scanFrom (.ofIndex s front.length) back) := by
  generalize placeEq : Place.ofIndex s front.length = place
  induction place, back using scanFrom.induct generalizing front with
  | case1 place =>
      rw [List.append_nil] at split
      subst split
      rw [scanFrom_nil, ← placeEq]
      exact ends
  | case2 place c back blank inductionHypothesis =>
      have nextPlace : Place.ofIndex s (front ++ [c]).length = place.after c := by
        rw [← placeEq, split]
        exact (Place.past_ofIndex front [c] back).symm
      rw [scanFrom_of_isBlank blank]
      exact skips front c back _ split blank (inductionHypothesis (by simp [split]) nextPlace)
  | case3 place c back notBlank fault cutEq =>
      have solid := Bool.eq_false_iff.mpr notBlank
      rw [scanFrom_of_cut_error solid cutEq, ← placeEq]
      exact stops front c back fault split solid cutEq
  | case4 place c back notBlank lexeme rest cutEq inductionHypothesis =>
      have solid := Bool.eq_false_iff.mpr notBlank
      have spelled : s = front ++ (lexeme.spelling ++ rest) := by
        rw [split, Lexeme.cut_spelling_append cutEq]
      have nextPlace :
          Place.ofIndex s (front ++ lexeme.spelling).length = place.past lexeme.spelling := by
        rw [← placeEq, spelled]
        exact (Place.past_ofIndex front lexeme.spelling rest).symm
      have behind := inductionHypothesis (by rw [spelled, List.append_assoc]) nextPlace
      have given := cuts front c back lexeme rest _ split solid cutEq behind
      rw [placeEq] at given
      rw [scanFrom_of_cut_ok solid cutEq]
      exact given

/-- Scanned tokens are closed. -/
theorem exists_closed_of_scan {tokens : List Token} (scanEq : scan s = .ok tokens) :
    ∃ closed, ClosedTokens.ofList? tokens = some closed := by
  rcases scanFrom_eq_ok scanEq with ⟨body, ending, rfl, valid⟩
  have bodyOpen : ∀ token ∈ body, token.kind ≠ .endOfInput := by
    intro token member
    exact (valid token member).kind_ne_endOfInput
  exact ⟨_, ClosedTokens.ofList?_toList ⟨body, endMarker ending, bodyOpen, rfl⟩⟩

end Token

end Lunette
