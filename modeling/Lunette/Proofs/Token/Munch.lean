import Lunette.Proofs.Token.Scan

/-!
# Scanning is maximal munch

Maximal munch is stated over indices of the whole text: from an index on, blanks are skipped,
the longest lexeme is taken, the end of the text is marked, and an index at which no lexeme
begins is where it gets stuck.  The statement does not say how the longest lexeme is found.

Scanning has the outcome of maximal munch from index zero on, and no other.
-/

namespace Lunette

/-- The lexemes of a text with their indices, or the fault and the index at which the cutting
is stuck. -/
abbrev Outline := Except (Lexeme.Fault × Int) (List (Lexeme × Int))

/-- Maximal munch of the text has the outcome from the index on. -/
inductive Munches (s : Text) : Nat → Outline → Prop where
  | finish : Munches s s.length (.ok [(⟨.endOfInput, []⟩, s.length)])
  | skip {index : Nat} {c : Char} {outline : Outline} (here : s[index]? = some c)
      (blank : Lexeme.isBlank c = true) (more : Munches s (index + 1) outline) :
      Munches s index outline
  | take {index : Nat} {c : Char} {lexeme : Lexeme} {rest : Text} {outline : Outline}
      (here : s[index]? = some c) (solid : Lexeme.isBlank c = false)
      (longest : Lexeme.Longest (s.drop index) lexeme rest)
      (more : Munches s (index + lexeme.spelling.length) outline) :
      Munches s index (outline.map ((lexeme, (index : Int)) :: ·))
  | stuck {index : Nat} {c : Char} (here : s[index]? = some c)
      (solid : Lexeme.isBlank c = false)
      (noOffer : ∀ lexeme rest, ¬ Lexeme.Offers (s.drop index) lexeme rest) :
      Munches s index (.error (Lexeme.faultAt c, index))

namespace ScanError

/-- The fault that stopped the scanning. -/
def fault : ScanError → Lexeme.Fault
  | .unexpectedCharacter char _ => .unexpectedCharacter char
  | .unterminatedString _ => .unterminatedString

/-- Where the scanning stopped. -/
def place : ScanError → Place
  | .unexpectedCharacter _ place | .unterminatedString place => place

@[simp]
theorem fault_located (fault : Lexeme.Fault) (place : Place) :
    (fault.located place).fault = fault := by
  cases fault <;> rfl

@[simp]
theorem place_located (fault : Lexeme.Fault) (place : Place) :
    (fault.located place).place = place := by
  cases fault <;> rfl

end ScanError

namespace Token

/-- The outline of what scanning yields: lines and columns are left out. -/
def outline : Except ScanError (List Token) → Outline
  | .ok tokens => .ok (tokens.map fun token => (token.toLexeme, token.place.offset))
  | .error error => .error (error.fault, error.place.offset)

@[simp]
theorem outline_map_cons (lexeme : Lexeme) (place : Place)
    (scanned : Except ScanError (List Token)) :
    outline (scanned.map (ofLexeme lexeme place :: ·)) =
      (outline scanned).map ((lexeme, place.offset) :: ·) := by
  cases scanned <;> rfl

/-- The outline of scanning is reached by maximal munch. -/
theorem munches_scanFrom {s : Text} (place : Place) (back : Text) :
    ∀ front, s = front ++ back → place.offset = front.length →
      Munches s front.length (outline (scanFrom place back)) := by
  induction place, back using scanFrom.induct with
  | case1 place =>
      intro front split offsetEq
      rw [List.append_nil] at split
      subst split
      rw [scanFrom_nil]
      change Munches s s.length (.ok [(⟨.endOfInput, []⟩, place.offset)])
      rw [offsetEq]
      exact .finish
  | case2 place c back blank inductionHypothesis =>
      intro front split offsetEq
      have more := inductionHypothesis (front ++ [c]) (by simp [split]) (by simp [offsetEq])
      rw [List.length_append] at more
      rw [scanFrom_of_isBlank blank]
      exact .skip (by simp [split]) blank more
  | case3 place c back notBlank fault cutEq =>
      intro front split offsetEq
      have solid := Bool.eq_false_iff.mpr notBlank
      rcases Lexeme.cut_eq_error_iff.mp cutEq with ⟨noOffer, rfl⟩
      have dropEq : s.drop front.length = c :: back := by simp [split]
      rw [scanFrom_of_cut_error solid cutEq, outline, ScanError.fault_located,
        ScanError.place_located, offsetEq]
      exact .stuck (by simp [split]) solid (dropEq ▸ noOffer)
  | case4 place c back notBlank lexeme rest cutEq inductionHypothesis =>
      intro front split offsetEq
      have solid := Bool.eq_false_iff.mpr notBlank
      have longest := Lexeme.cut_eq_ok_iff.mp cutEq
      have dropEq : s.drop front.length = c :: back := by simp [split]
      have more := inductionHypothesis (front ++ lexeme.spelling)
        (by rw [split, longest.split, List.append_assoc]) (by simp [offsetEq])
      rw [List.length_append] at more
      rw [scanFrom_of_cut_ok solid cutEq, outline_map_cons, offsetEq]
      exact .take (by simp [split]) solid (dropEq ▸ longest) more

private theorem drop_eq_cons {s : Text} {index : Nat} {c : Char} (here : s[index]? = some c) :
    s.drop index = c :: s.drop (index + 1) := by
  rcases List.getElem?_eq_some_iff.mp here with ⟨inside, rfl⟩
  exact List.drop_eq_getElem_cons inside

/-- Every outcome of maximal munch is the outline of scanning. -/
theorem eq_outline_of_munches {s : Text} {index : Nat} {outcome : Outline}
    (munches : Munches s index outcome) :
    ∀ place : Place, place.offset = index →
      outcome = outline (scanFrom place (s.drop index)) := by
  induction munches with
  | finish =>
      intro place offsetEq
      rw [List.drop_length, scanFrom_nil, ← offsetEq]
      rfl
  | @skip index c outline here blank _ inductionHypothesis =>
      intro place offsetEq
      rw [drop_eq_cons here, scanFrom_of_isBlank blank]
      exact inductionHypothesis (place.after c) (by simp [offsetEq])
  | @take index c lexeme rest outline here solid longest _ inductionHypothesis =>
      intro place offsetEq
      have dropEq := drop_eq_cons here
      have cutEq := Lexeme.cut_eq_ok_iff.mpr (dropEq ▸ longest)
      have restEq : s.drop (index + lexeme.spelling.length) = rest := by
        rw [← List.drop_drop, longest.split, List.drop_left]
      have more := inductionHypothesis (place.past lexeme.spelling) (by simp [offsetEq])
      rw [dropEq, scanFrom_of_cut_ok solid cutEq, outline_map_cons, offsetEq, more, restEq]
  | @stuck index c here solid noOffer =>
      intro place offsetEq
      have dropEq := drop_eq_cons here
      have cutEq := Lexeme.cut_eq_error_iff.mpr ⟨dropEq ▸ noOffer, rfl⟩
      rw [dropEq, scanFrom_of_cut_error solid cutEq, outline, ScanError.fault_located,
        ScanError.place_located, offsetEq]

/-- Scanning has the outcome of maximal munch, which is the only one, and the tokens that it
yields are closed by their only end marker. -/
theorem munches_iff_scan (s : Text) (outcome : Outline) :
    (Munches s 0 outcome ↔ outcome = outline (scan s)) ∧
      ∀ tokens, scan s = .ok tokens → ∃ closed, ClosedTokens.ofList? tokens = some closed := by
  constructor
  · constructor
    · intro munches
      exact eq_outline_of_munches munches .start rfl
    · rintro rfl
      exact munches_scanFrom .start s [] rfl rfl
  · intro tokens scanEq
    exact exists_closed_of_scan scanEq

end Token

end Lunette
