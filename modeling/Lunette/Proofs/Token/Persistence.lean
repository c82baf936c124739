import Lunette.Proofs.Token.Concatenation
import Lunette.Proofs.Token.Fault
import Lunette.Proofs.Token.Munch

/-!
# Faults persist

Scanning that fails has cut everything in front of the fault, and would have cut it in the same
way without what follows.  So the fault is the first one of the text, and what is put behind the
text does away with it only where the fault itself reaches up to the end: a string literal can
still be closed, and an equals sign makes a mark of a tilde that stands last.
-/

namespace Lunette

namespace Lexeme

variable {c : Char} {s t rest : Text} {lexeme : Lexeme}

/-! ## Parts of a text -/

/-- The longest lexeme of a text is the longest one of any part in front that holds it. -/
theorem Longest.of_append (longest : Longest (s ++ t) lexeme (rest ++ t)) :
    Longest s lexeme rest := by
  have split : s = lexeme.spelling ++ rest := by
    have whole := longest.split
    rw [← List.append_assoc] at whole
    exact List.append_cancel_right whole
  refine ⟨⟨longest.valid, split⟩, fun other more offers => ?_⟩
  apply longest.longest other (more ++ t)
  exact ⟨offers.valid, by rw [offers.split, List.append_assoc]⟩

/-- What is cut off a text is cut off any part in front that holds it. -/
theorem cut_of_cut_append (cutEq : cut c (s ++ t) = .ok (lexeme, rest ++ t)) :
    cut c s = .ok (lexeme, rest) :=
  cut_eq_ok_iff.mpr (Longest.of_append (s := c :: s) (cut_eq_ok_iff.mp cutEq))

/-! ## Faults in cutting -/

/-- Any character but a tilde that begins no lexeme begins none, whatever follows it. -/
theorem cut_eq_unexpected_of_ne (notTilde : c ≠ '~')
    (cutEq : cut c s = .error (.unexpectedCharacter c)) (t : Text) :
    cut c t = .error (.unexpectedCharacter c) := by
  unfold cut at cutEq ⊢
  cases signEq : Kind.ofSign? c with
  | some kind =>
      rw [signEq] at cutEq
      cases cutEq
  | none =>
      rw [signEq] at cutEq
      dsimp only at cutEq ⊢
      split_ifs at cutEq ⊢ with isEquals isQuote isDigit starts
      · split at cutEq <;> cases cutEq
      · unfold cutString at cutEq
        split at cutEq <;> cases cutEq
      · rfl

/-- A tilde is at fault unless an equals sign follows. -/
theorem cut_tilde_eq_error_iff :
    cut '~' s = .error (.unexpectedCharacter '~') ↔ s.head? ≠ some '=' := by
  constructor
  · intro cutEq ahead
    obtain ⟨more, rfl⟩ := List.head?_eq_some_iff.mp ahead
    cases cutEq
  · exact cut_of_lone_tilde

/-- A string literal is at fault where no other quote follows. -/
theorem cut_quote_eq_error_iff :
    cut Text.doubleQuote s = .error .unterminatedString ↔ Text.doubleQuote ∉ s := by
  constructor
  · intro cutEq
    exact (quote_of_cut_unterminated cutEq).2
  · intro quoteless
    have passed : s.dropWhile (· != Text.doubleQuote) = [] := by
      rw [List.dropWhile_eq_nil_iff]
      intro d member
      exact bne_iff_ne.mpr fun isQuote => quoteless (isQuote ▸ member)
    change cutString s = _
    rw [cutString, passed]

/-- A character that begins no lexeme still begins none with more text behind, unless it is a
tilde at the end and an equals sign is put behind it. -/
theorem cut_append_eq_unexpected_iff (cutEq : cut c s = .error (.unexpectedCharacter c)) :
    cut c (s ++ t) = .error (.unexpectedCharacter c) ↔
      ¬ (c = '~' ∧ s = [] ∧ t.head? = some '=') := by
  by_cases isTilde : c = '~'
  · subst isTilde
    rw [cut_tilde_eq_error_iff] at cutEq ⊢
    cases s with
    | nil => simp
    | cons d s => simpa using cutEq
  · have persists := cut_eq_unexpected_of_ne isTilde cutEq (s ++ t)
    simp [isTilde, persists]

/-- A string literal that is not closed is closed by a quote only. -/
theorem cut_append_eq_unterminated_iff (cutEq : cut c s = .error .unterminatedString) :
    cut c (s ++ t) = .error .unterminatedString ↔ Text.doubleQuote ∉ t := by
  obtain ⟨rfl, quoteless⟩ := quote_of_cut_unterminated cutEq
  rw [cut_quote_eq_error_iff, List.mem_append, not_or, and_iff_right quoteless]

end Lexeme

namespace Token

variable {place : Place} {s t front back : Text} {c : Char} {fault : Lexeme.Fault}
  {body : List Token} {error : ScanError}

/-! ## In front of a fault -/

/-- Scanning the text from the place stops at the character behind the front, which by itself is
scanned as the tokens in the body. -/
structure StopsBehind (place : Place) (s front : Text) (body : List Token) (c : Char)
    (back : Text) (fault : Lexeme.Fault) : Prop where
  split : s = front ++ c :: back
  scanEq : scanFrom place front = .ok (body ++ [endMarker (place.past front)])
  apart : EndsApart body (place.offset + front.length) (c :: back)
  solid : Lexeme.isBlank c = false
  cutEq : Lexeme.cut c back = .error fault

/-- A blank may stand in front of everything. -/
theorem StopsBehind.skip {blank : Char} (isBlank : Lexeme.isBlank blank = true)
    (stops : StopsBehind (place.after blank) s front body c back fault) :
    StopsBehind place (blank :: s) (blank :: front) body c back fault where
  split := congrArg (blank :: ·) stops.split
  scanEq := (scanFrom_of_isBlank isBlank).trans stops.scanEq
  apart := by
    have endEq : place.offset + (blank :: front).length =
        (place.after blank).offset + front.length := by
      rw [Place.offset_after, List.length_cons, Int.natCast_succ]
      omega
    rw [endEq]
    exact stops.apart
  solid := stops.solid
  cutEq := stops.cutEq

/-- A lexeme that has been cut stands in front of everything. -/
theorem StopsBehind.cut {first : Char} {rest : Text} {lexeme : Lexeme}
    (firstSolid : Lexeme.isBlank first = false)
    (firstEq : Lexeme.cut first s = .ok (lexeme, rest))
    (stops : StopsBehind (place.past lexeme.spelling) rest front body c back fault) :
    StopsBehind place (first :: s) (lexeme.spelling ++ front) (ofLexeme lexeme place :: body)
      c back fault := by
  obtain rfl := stops.split
  have longest := Lexeme.cut_eq_ok_iff.mp firstEq
  obtain ⟨d, more, spellingEq⟩ :=
    List.exists_cons_of_ne_nil (Lexeme.spelling_ne_nil_of_cut firstEq)
  have whole : first :: s = d :: (more ++ (front ++ c :: back)) := by
    rw [longest.split, spellingEq, List.cons_append]
  have endEq : place.offset + (lexeme.spelling ++ front).length =
      (place.past lexeme.spelling).offset + front.length := by
    rw [Place.offset_past, List.length_append, Int.natCast_add]
    omega
  constructor
  case split => rw [List.append_assoc, longest.split]
  case scanEq =>
    obtain ⟨rfl, rfl⟩ := List.cons.inj whole
    rw [← List.append_assoc] at firstEq
    have frontCut := Lexeme.cut_of_cut_append firstEq
    rw [Place.past_append, spellingEq, List.cons_append, scanFrom_of_cut_ok firstSolid frontCut,
      stops.scanEq, spellingEq]
    rfl
  case apart =>
    rw [endEq]
    refine .cons (fun atEnd => ?_) stops.apart
    -- The lexeme reaches up to the fault, so nothing stands between them.
    have width : (ofLexeme lexeme place).width = lexeme.spelling.length :=
      (length_spelling_toLexeme (ofLexeme lexeme place)).symm
    rw [width, Place.offset_past] at atEnd
    change place.offset + lexeme.spelling.length = _ at atEnd
    have noGap : front = [] := List.length_eq_zero_iff.mp (by omega)
    subst noGap
    exact longest.apart
  case solid => exact stops.solid
  case cutEq => exact stops.cutEq

/-- Scanning that fails stops behind what it has scanned, and reports the place it has come to. -/
theorem exists_stopsBehind (errorEq : scanFrom place s = .error error) :
    ∃ front body c back fault, StopsBehind place s front body c back fault ∧
      error = fault.located (place.past front) := by
  induction place, s using scanFrom.induct generalizing error with
  | case1 place =>
      rw [scanFrom_nil] at errorEq
      cases errorEq
  | case2 place blank s isBlank inductionHypothesis =>
      rw [scanFrom_of_isBlank isBlank] at errorEq
      obtain ⟨front, body, c, back, fault, stops, rfl⟩ := inductionHypothesis errorEq
      exact ⟨_, _, _, _, _, stops.skip isBlank, rfl⟩
  | case3 place c back notBlank fault cutEq =>
      have solid := Bool.eq_false_iff.mpr notBlank
      rw [scanFrom_of_cut_error solid cutEq] at errorEq
      cases errorEq
      exact ⟨[], [], c, back, fault, ⟨rfl, scanFrom_nil, .nil _ _, solid, cutEq⟩, rfl⟩
  | case4 place first s notBlank lexeme rest cutEq inductionHypothesis =>
      have solid := Bool.eq_false_iff.mpr notBlank
      rw [scanFrom_of_cut_ok solid cutEq] at errorEq
      cases restEq : scanFrom (place.past lexeme.spelling) rest with
      | ok others =>
          rw [restEq] at errorEq
          cases errorEq
      | error found =>
          rw [restEq] at errorEq
          cases errorEq
          obtain ⟨front, body, c, back, fault, stops, rfl⟩ := inductionHypothesis restEq
          rw [← Place.past_append]
          exact ⟨_, _, _, _, _, stops.cut solid cutEq, rfl⟩

/-- Scanning reports nothing that lies in front of where it begins. -/
theorem offset_le_of_scanFrom_eq_error (errorEq : scanFrom place s = .error error) :
    place.offset ≤ error.place.offset := by
  obtain ⟨front, body, c, back, fault, -, rfl⟩ := exists_stopsBehind errorEq
  rw [ScanError.place_located, Place.offset_past]
  omega

/-! ## Behind a fault -/

/-- With more text behind, scanning comes to the same place with the same tokens. -/
theorem StopsBehind.scanFrom_append_eq (stops : StopsBehind place s front body c back fault)
    (t : Text) :
    scanFrom place (s ++ t) =
      (scanFrom (place.past front) (c :: (back ++ t))).map (body ++ ·) := by
  rw [stops.split, List.append_assoc]
  exact scanFrom_append place front body _ stops.scanEq stops.apart

/-- The same fault is reported as long as it is one for the cutting. -/
theorem StopsBehind.scanFrom_append_eq_error_iff
    (stops : StopsBehind place s front body c back fault) (t : Text) :
    scanFrom place (s ++ t) = .error (fault.located (place.past front)) ↔
      Lexeme.cut c (back ++ t) = .error fault := by
  rw [stops.scanFrom_append_eq]
  cases againEq : Lexeme.cut c (back ++ t) with
  | error other =>
      have sameFault : other = fault :=
        (Lexeme.eq_faultAt_of_cut againEq).trans (Lexeme.eq_faultAt_of_cut stops.cutEq).symm
      rw [scanFrom_of_cut_error stops.solid againEq, sameFault]
      exact iff_of_true rfl rfl
  | ok found =>
      obtain ⟨lexeme, rest⟩ := found
      rw [scanFrom_of_cut_ok stops.solid againEq]
      refine iff_of_false (fun sameEq => ?_) nofun
      -- A fault behind the lexeme lies further on than this one.
      cases restEq : scanFrom ((place.past front).past lexeme.spelling) rest with
      | ok others =>
          rw [restEq] at sameEq
          cases sameEq
      | error other =>
          rw [restEq] at sameEq
          have otherEq : other = fault.located (place.past front) := Except.error.inj sameEq
          have further := offset_le_of_scanFrom_eq_error restEq
          have positive := List.length_pos_iff.mpr (Lexeme.spelling_ne_nil_of_cut againEq)
          rw [otherEq, ScanError.place_located, Place.offset_past] at further
          omega

end Token

/-- What is put behind the text does away with the fault in it. -/
def ScanError.MendedBy (s t : Text) : ScanError → Prop
  | .unexpectedCharacter char place =>
      char = '~' ∧ place.offset + 1 = s.length ∧ t.head? = some '='
  | .unterminatedString _ => Text.doubleQuote ∈ t

namespace Token

variable {s : Text} {error : ScanError}

/-- The place behind the front is that of the last character exactly if nothing follows it. -/
theorem offset_past_front_iff {front back : Text} {c : Char} :
    (Place.start.past front).offset + 1 = (front ++ c :: back).length ↔ back = [] := by
  have startEq : Place.start.offset = 0 := rfl
  rw [Place.offset_past, startEq, List.length_append, List.length_cons, ← List.length_eq_zero_iff]
  omega

/-- A text with a fault can be scanned up to the fault, and the same fault is found with any
other text behind, unless that text mends it. -/
theorem scan_append_eq_error_iff (scanEq : scan s = .error error) :
    (∃ index, error.place = .ofIndex s index ∧ index < s.length ∧
      ∃ tokens, scan (s.take index) = .ok tokens) ∧
    ∀ t, scan (s ++ t) = .error error ↔ ¬ error.MendedBy s t := by
  obtain ⟨front, body, c, back, fault, stops, rfl⟩ := exists_stopsBehind scanEq
  constructor
  · refine ⟨front.length, ?_, ?_, body ++ [endMarker (Place.start.past front)], ?_⟩
    · rw [ScanError.place_located, stops.split, Place.ofIndex_length_append]
    · simp [stops.split]
    · rw [stops.split, List.take_left]
      exact stops.scanEq
  · intro t
    have sameIff : scan (s ++ t) = .error (fault.located (Place.start.past front)) ↔
        Lexeme.cut c (back ++ t) = .error fault := stops.scanFrom_append_eq_error_iff t
    have cutEq := stops.cutEq
    rw [sameIff]
    cases fault with
    | unexpectedCharacter char =>
        cases Lexeme.eq_of_cut_unexpected cutEq
        rw [Lexeme.cut_append_eq_unexpected_iff cutEq, stops.split, Lexeme.Fault.located,
          ScanError.MendedBy, offset_past_front_iff]
    | unterminatedString => exact Lexeme.cut_append_eq_unterminated_iff cutEq

/-- A text that ends with a tilde, and one that ends in a string literal. -/
theorem scan_append_loneTilde :
    scan "a\n~".toList = .error (.unexpectedCharacter '~' ⟨2, 2, 1⟩) ∧
      scan ("a\n~".toList ++ "x".toList) = .error (.unexpectedCharacter '~' ⟨2, 2, 1⟩) ∧
      scan ("a\n~".toList ++ "=".toList) ≠ .error (.unexpectedCharacter '~' ⟨2, 2, 1⟩) ∧
      scan "a \"b".toList = .error (.unterminatedString ⟨2, 1, 3⟩) ∧
      scan ("a \"b".toList ++ "~=".toList) = .error (.unterminatedString ⟨2, 1, 3⟩) ∧
      scan ("a \"b".toList ++ "~\"".toList) ≠ .error (.unterminatedString ⟨2, 1, 3⟩) := by
  have tildeEq : scan "a\n~".toList = .error (.unexpectedCharacter '~' ⟨2, 2, 1⟩) := by
    decide +kernel
  have quoteEq : scan "a \"b".toList = .error (.unterminatedString ⟨2, 1, 3⟩) := by
    decide +kernel
  have tilde := (scan_append_eq_error_iff tildeEq).2
  have quote := (scan_append_eq_error_iff quoteEq).2
  refine ⟨tildeEq, (tilde _).mpr ?_, fun sameEq => (tilde _).mp sameEq ?_, quoteEq,
    (quote _).mpr ?_, fun sameEq => (quote _).mp sameEq ?_⟩
  · rintro ⟨-, -, ⟨⟩⟩
  · exact ⟨rfl, rfl, rfl⟩
  · simp [ScanError.MendedBy, Text.doubleQuote]
  · simp [ScanError.MendedBy, Text.doubleQuote]

end Token

end Lunette
