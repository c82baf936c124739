import Lunette.Proofs.Lexeme.Fusion
import Lunette.Proofs.Token.Tiling

/-!
# Scanning texts that stand behind one another

A text is scanned the same way whatever stands in front of it; only the places move.  What
stands in front is scanned the same way, too, unless its last lexeme reaches up to its end and
fuses with what follows.  So the tokens of two texts in a row are the tokens of the one, without
the end marker, and those of the other one, moved.
-/

namespace Lunette

/-- The fault in a text that stands behind another one. -/
def ScanError.behind (s : Text) : ScanError → ScanError
  | .unexpectedCharacter char place => .unexpectedCharacter char (place.behind s)
  | .unterminatedString place => .unterminatedString (place.behind s)

theorem Lexeme.Fault.located_behind (fault : Lexeme.Fault) (s : Text) (place : Place) :
    fault.located (place.behind s) = (fault.located place).behind s := by
  cases fault <;> rfl

namespace Token

/-- The token in a text that stands behind another one. -/
def behind (s : Text) (token : Token) : Token :=
  { token with place := token.place.behind s }

/-- What scanning a text gives, where the text stands behind another one. -/
def scannedBehind (s : Text) : Except ScanError (List Token) → Except ScanError (List Token)
  | .ok tokens => .ok (tokens.map (behind s))
  | .error error => .error (error.behind s)

/-- Scanning goes on behind another text as it would go on without it. -/
theorem scanFrom_behind (s : Text) (place : Place) (t : Text) (inText : 1 ≤ place.line) :
    scanFrom (place.behind s) t = scannedBehind s (scanFrom place t) := by
  induction place, t using scanFrom.induct with
  | case1 place =>
      rw [scanFrom_nil, scanFrom_nil]
      rfl
  | case2 place c t blank inductionHypothesis =>
      rw [scanFrom_of_isBlank blank, scanFrom_of_isBlank blank, ← Place.behind_after s c inText]
      exact inductionHypothesis (Place.one_le_line_after c inText)
  | case3 place c t notBlank fault cutEq =>
      have solid := Bool.eq_false_iff.mpr notBlank
      rw [scanFrom_of_cut_error solid cutEq, scanFrom_of_cut_error solid cutEq,
        fault.located_behind]
      rfl
  | case4 place c t notBlank lexeme rest cutEq inductionHypothesis =>
      have solid := Bool.eq_false_iff.mpr notBlank
      rw [scanFrom_of_cut_ok solid cutEq, scanFrom_of_cut_ok solid cutEq,
        ← Place.behind_past s _ inText,
        inductionHypothesis (Place.one_le_line_past _ inText)]
      cases scanFrom (place.past lexeme.spelling) rest <;> rfl

/-- The last of the tokens, if it reaches up to the end, does not fuse with the text behind. -/
def EndsApart (tokens : List Token) (ending : Int) (t : Text) : Prop :=
  ∀ last, tokens.getLast? = some last → last.place.offset + last.width = ending →
    last.toLexeme.Apart t

theorem EndsApart.nil (ending : Int) (t : Text) : EndsApart [] ending t := by
  intro last isLast
  cases isLast

/-- One more token in front does not matter unless it is the last one. -/
theorem EndsApart.cons {token : Token} {tokens : List Token} {ending : Int} {t : Text}
    (alone : token.place.offset + token.width = ending → token.toLexeme.Apart t)
    (others : EndsApart tokens ending t) : EndsApart (token :: tokens) ending t := by
  intro last lastEq atEnd
  rw [List.getLast?_cons] at lastEq
  cases othersEq : tokens.getLast? with
  | some other =>
      rw [othersEq] at lastEq
      cases lastEq
      exact others other othersEq atEnd
  | none =>
      rw [othersEq] at lastEq
      have isAlone : token = last := Option.some.inj lastEq
      subst isAlone
      exact alone atEnd

theorem scanFrom_nil_eq_ok {place ending : Place} {body : List Token}
    (scanEq : scanFrom place [] = .ok (body ++ [endMarker ending])) : body = [] := by
  rw [scanFrom_nil] at scanEq
  have tokensEq : [] ++ [endMarker place] = body ++ [endMarker ending] := Except.ok.inj scanEq
  exact (List.append_inj' tokensEq rfl).1.symm

/-- Behind a lexeme that has been cut the other tokens are scanned. -/
theorem scanFrom_cons_eq_ok {place ending : Place} {c : Char} {s rest : Text} {lexeme : Lexeme}
    {body : List Token} (solid : Lexeme.isBlank c = false)
    (cutEq : Lexeme.cut c s = .ok (lexeme, rest))
    (scanEq : scanFrom place (c :: s) = .ok (body ++ [endMarker ending])) :
    ∃ others, body = ofLexeme lexeme place :: others ∧
      scanFrom (place.past lexeme.spelling) rest = .ok (others ++ [endMarker ending]) := by
  rw [scanFrom_of_cut_ok solid cutEq] at scanEq
  cases restEq : scanFrom (place.past lexeme.spelling) rest with
  | error error =>
      rw [restEq] at scanEq
      cases scanEq
  | ok tokens =>
      obtain ⟨others, last, rfl, -⟩ := scanFrom_eq_ok restEq
      rw [restEq] at scanEq
      have tokensEq : (ofLexeme lexeme place :: others) ++ [endMarker last] =
          body ++ [endMarker ending] := Except.ok.inj scanEq
      obtain ⟨bodyEq, markerEq⟩ := List.append_inj' tokensEq rfl
      exact ⟨others, bodyEq.symm, by rw [markerEq]⟩

/-- What stands in front of another text is scanned as it would be alone. -/
theorem scanFrom_append {t : Text} (place : Place) (s : Text) :
    ∀ body ending, scanFrom place s = .ok (body ++ [endMarker ending]) →
      EndsApart body (place.offset + s.length) t →
        scanFrom place (s ++ t) = (scanFrom (place.past s) t).map (body ++ ·) := by
  induction place, s using scanFrom.induct with
  | case1 place =>
      intro body ending scanEq _
      cases scanFrom_nil_eq_ok scanEq
      change scanFrom place t = (scanFrom place t).map id
      rw [Except.map_id]
      rfl
  | case2 place c s blank inductionHypothesis =>
      intro body ending scanEq apart
      rw [scanFrom_of_isBlank blank] at scanEq
      have endEq : (place.after c).offset + s.length = place.offset + (c :: s).length := by
        rw [Place.offset_after, List.length_cons]
        omega
      rw [List.cons_append, scanFrom_of_isBlank blank]
      exact inductionHypothesis body ending scanEq (endEq ▸ apart)
  | case3 place c s notBlank fault cutEq =>
      intro body ending scanEq
      rw [scanFrom_of_cut_error (Bool.eq_false_iff.mpr notBlank) cutEq] at scanEq
      cases scanEq
  | case4 place c s notBlank lexeme rest cutEq inductionHypothesis =>
      intro body ending scanEq apart
      have solid := Bool.eq_false_iff.mpr notBlank
      have textEq := Lexeme.cut_spelling_append cutEq
      obtain ⟨others, rfl, restEq⟩ := scanFrom_cons_eq_ok solid cutEq scanEq
      have endEq : (place.past lexeme.spelling).offset + rest.length =
          place.offset + (c :: s).length := by
        rw [Place.offset_past, textEq, List.length_append]
        omega
      have firstApart : rest = [] → lexeme.Apart t := by
        rintro rfl
        cases scanFrom_nil_eq_ok restEq
        apply apart _ rfl
        rw [← endEq, Place.offset_past, ← length_spelling_toLexeme]
        exact (Int.add_zero _).symm
      have othersApart :
          EndsApart others ((place.past lexeme.spelling).offset + rest.length) t := by
        intro last lastEq atEnd
        apply apart last
        · rw [List.getLast?_cons, lastEq]
          rfl
        · rw [atEnd, endEq]
      rw [List.cons_append, scanFrom_of_cut_ok solid (Lexeme.cut_append cutEq firstApart),
        inductionHypothesis others ending restEq othersApart, ← Place.past_append, ← textEq]
      cases scanFrom (place.past (c :: s)) t <;> rfl

/-- Texts in a row are scanned one after the other, provided that the last token of the first
one does not fuse with what follows. -/
theorem scan_append {s t : Text} {body : List Token} {ending : Place}
    (scanEq : scan s = .ok (body ++ [endMarker ending])) (apart : EndsApart body s.length t) :
    scan (s ++ t) = (scannedBehind s (scan t)).map (body ++ ·) := by
  have fromStart : EndsApart body (Place.start.offset + s.length) t := by
    rw [show Place.start.offset = 0 from rfl, Int.zero_add]
    exact apart
  rw [scan, scanFrom_append .start s body ending scanEq fromStart, ← Place.start_behind,
    scanFrom_behind s .start t (by decide)]
  rfl

end Token

end Lunette
