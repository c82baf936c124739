import Lunette.Proofs.Text.LineEndings
import Lunette.Proofs.Token.Fault
import Lunette.Proofs.Token.Tiling

/-!
# Scanning texts with one kind of line ending

Line endings stand between lexemes, where they are blanks of one kind or the other, and inside
string literals.  So a text with unified line endings has the same lexemes, up to the line
endings in them, and a fault that stops the scanning is found at the same character.  Every
token moves to the place that its first character has then.

Where all carriage returns have a line feed behind them, the lines of the text stay the same
and end sooner by a character, so lines and columns stay, and only the offsets change.
-/

namespace Lunette

open Text (unifyLineEndings)

namespace Lexeme

variable {c : Char} {s : Text}

/-- The lexeme with unified line endings. -/
def unified (lexeme : Lexeme) : Lexeme :=
  ⟨lexeme.kind, unifyLineEndings lexeme.text⟩

/-- What is cut off a text with unified line endings. -/
def unifiedCut : Except Fault (Lexeme × Text) → Except Fault (Lexeme × Text)
  | .ok (lexeme, rest) => .ok (lexeme.unified, unifyLineEndings rest)
  | .error fault => .error fault

theorem ne_return_of_solid (solid : isBlank c = false) : c ≠ '\r' := by
  rintro rfl
  cases solid

theorem head?_ne_feed_of_solid (solid : isBlank c = false) : (c :: s).head? ≠ some '\n' := by
  rintro ⟨⟩
  cases solid

/-! ## The same lexeme is cut -/

/-- A run of characters of words has no line endings. -/
theorem run_unifyLineEndings {part : Char → Bool}
    (inWord : ∀ d, part d = true → isWordPart d = true) (s : Text) :
    (unifyLineEndings s).takeWhile part = s.takeWhile part ∧ '\r' ∉ s.takeWhile part ∧
      (unifyLineEndings s).dropWhile part = unifyLineEndings (s.dropWhile part) := by
  have noPart : ∀ d, isWordPart d = false → part d = false := by
    intro d notWord
    apply Bool.eq_false_iff.mpr
    intro isPart
    rw [inWord d isPart] at notWord
    cases notWord
  have noReturn : '\r' ∉ s.takeWhile part := by
    intro member
    have isPart := List.all_eq_true.mp List.all_takeWhile _ member
    rw [noPart '\r' rfl] at isPart
    cases isPart
  have sameClass : part '\r' = part '\n' := (noPart '\r' rfl).trans (noPart '\n' rfl).symm
  obtain ⟨takeEq, dropEq⟩ := Text.stretch_unifyLineEndings sameClass s
  rw [Text.unifyLineEndings_of_notMem noReturn] at takeEq
  exact ⟨takeEq, noReturn, dropEq⟩

theorem cut_unifyLineEndings_of_isWordPart (part : isWordPart c = true) (s : Text) :
    cut c (unifyLineEndings s) = unifiedCut (cut c s) := by
  have notReturn := ne_return_of_solid (isBlank_eq_false_of_isWordPart part)
  have kept : ∀ run : Text, '\r' ∉ run → unifyLineEndings (c :: run) = c :: run :=
    fun run noReturn => Text.unifyLineEndings_of_notMem (by simp [noReturn, Ne.symm notReturn])
  rw [cut_of_isWordPart part, cut_of_isWordPart part]
  by_cases digit : c.isDigit = true
  · obtain ⟨takeEq, noReturn, dropEq⟩ := run_unifyLineEndings (fun _ => isWordPart_of_isDigit) s
    rw [if_pos digit, if_pos digit, unifiedCut, unified, kept _ noReturn, takeEq, dropEq]
  · obtain ⟨takeEq, noReturn, dropEq⟩ := run_unifyLineEndings (fun _ isPart => isPart) s
    rw [if_neg digit, if_neg digit, unifiedCut, unified, kept _ noReturn, takeEq, dropEq]

theorem cutString_unifyLineEndings (s : Text) :
    cutString (unifyLineEndings s) = unifiedCut (cutString s) := by
  obtain ⟨takeEq, dropEq⟩ :=
    @Text.stretch_unifyLineEndings (· != Text.doubleQuote) rfl s
  rw [cutString, cutString, takeEq, dropEq]
  cases restEq : s.dropWhile (· != Text.doubleQuote) with
  | nil => rfl
  | cons quote rest =>
      have isQuote : quote = Text.doubleQuote := by
        simpa [restEq] using List.head?_dropWhile_not (· != Text.doubleQuote) s
      rw [isQuote, Text.unifyLineEndings_cons_of_ne (by decide)]
      rfl

theorem head?_unifyLineEndings_eq_equals (s : Text) :
    (unifyLineEndings s).head? = some '=' ↔ s.head? = some '=' := by
  rw [Text.head?_unifyLineEndings]
  cases s with
  | nil => exact Iff.rfl
  | cons d s =>
      rw [List.head?_cons, Option.map_some, Option.some.injEq, Option.some.injEq, Text.unifiedChar]
      split
      · rename_i isReturn
        rw [isReturn]
        decide
      · exact Iff.rfl

theorem cut_equals_unifyLineEndings (s : Text) :
    cut '=' (unifyLineEndings s) = unifiedCut (cut '=' s) := by
  by_cases isDouble : s.head? = some '='
  · obtain ⟨more, rfl⟩ := List.head?_eq_some_iff.mp isDouble
    rw [Text.unifyLineEndings_cons_of_ne (by decide)]
    rfl
  · have isLone : (unifyLineEndings s).head? ≠ some '=' := by
      rwa [Ne, head?_unifyLineEndings_eq_equals]
    rw [cut_of_lone_equals isDouble, cut_of_lone_equals isLone]
    rfl

theorem cut_tilde_unifyLineEndings (s : Text) :
    cut '~' (unifyLineEndings s) = unifiedCut (cut '~' s) := by
  by_cases isDouble : s.head? = some '='
  · obtain ⟨more, rfl⟩ := List.head?_eq_some_iff.mp isDouble
    rw [Text.unifyLineEndings_cons_of_ne (by decide)]
    rfl
  · have isLone : (unifyLineEndings s).head? ≠ some '=' := by
      rwa [Ne, head?_unifyLineEndings_eq_equals]
    rw [cut_of_lone_tilde isDouble, cut_of_lone_tilde isLone]
    rfl

/-- From a text with unified line endings the same lexeme is cut, with unified line endings. -/
theorem cut_unifyLineEndings (solid : isBlank c = false) (s : Text) :
    cut c (unifyLineEndings s) = unifiedCut (cut c s) := by
  by_cases part : isWordPart c = true
  · exact cut_unifyLineEndings_of_isWordPart part s
  · cases signEq : Kind.ofSign? c with
    | some kind =>
        have sameSign : unifyLineEndings [c] = [c] :=
          Text.unifyLineEndings_cons_of_ne (ne_return_of_solid solid)
        rw [cut_of_sign signEq, cut_of_sign signEq, unifiedCut, unified, sameSign]
    | none =>
        by_cases isEquals : c = '='
        · subst isEquals
          exact cut_equals_unifyLineEndings s
        · by_cases isTilde : c = '~'
          · subst isTilde
            exact cut_tilde_unifyLineEndings s
          · by_cases isQuote : c = Text.doubleQuote
            · subst isQuote
              exact cutString_unifyLineEndings s
            · have fails : ∀ t, cut c t = .error (.unexpectedCharacter c) := by
                intro t
                have notDigit : ¬ c.isDigit = true :=
                  fun digit => part (isWordPart_of_isDigit digit)
                have notStart : ¬ isWordStart c = true :=
                  fun starts => part (isWordPart_of_isWordStart starts)
                simp only [cut, signEq, isEquals, isTilde, isQuote, notDigit, notStart, if_false,
                  Bool.false_eq_true]
              rw [fails, fails, unifiedCut]

end Lexeme

/-! ## The places move -/

namespace Place

/-- The place in the text with unified line endings. -/
def unified (s : Text) (place : Place) : Place :=
  .ofIndex (unifyLineEndings s) (unifyLineEndings (s.take place.offset.toNat)).length

/-- A place is as far behind what is in front of it as before. -/
theorem unified_ofIndex {s front back front' : Text} (split : s = front ++ back)
    (whole : back.head? ≠ some '\n')
    (splitUnified : unifyLineEndings s = front' ++ unifyLineEndings back) :
    (ofIndex s front.length).unified s = ofIndex (unifyLineEndings s) front'.length := by
  have frontEq : unifyLineEndings front = front' := by
    rw [split, Text.unifyLineEndings_append front whole] at splitUnified
    exact List.append_cancel_right splitUnified
  have takeEq : s.take (ofIndex s front.length).offset.toNat = front := by
    rw [split]
    exact List.take_left
  rw [unified, takeEq, frontEq]

/-- The places are in the same line and the same column. -/
structure SameSpot (place other : Place) : Prop where
  line : place.line = other.line
  column : place.column = other.column

theorem SameSpot.after {place other : Place} (same : place.SameSpot other) (c : Char) :
    (place.after c).SameSpot (other.after c) := by
  unfold Place.after
  split
  · exact ⟨congrArg (· + 1) same.line, rfl⟩
  · exact ⟨same.line, congrArg (· + 1) same.column⟩

/-- A carriage return does not show in front of a line feed. -/
theorem SameSpot.after_pair {place other : Place} (same : place.SameSpot other) :
    (place.after '\n').SameSpot ((other.after '\r').after '\n') :=
  ⟨congrArg (· + 1) same.line, rfl⟩

theorem SameSpot.past_unifyLineEndings {place other : Place} {s : Text} (paired : s.Paired)
    (same : place.SameSpot other) :
    (place.past (unifyLineEndings s)).SameSpot (other.past s) := by
  induction s using Text.lineEndings_induction generalizing place other with
  | nil => exact same
  | pair s inductionHypothesis =>
      rw [unifyLineEndings]
      exact inductionHypothesis paired.tail.tail same.after_pair
  | single c s alone inductionHypothesis =>
      have notReturn : c ≠ '\r' := by
        rintro rfl
        exact alone rfl (List.head?_eq_getElem?.trans (paired 0 rfl))
      rw [Text.unifyLineEndings_cons_of_ne notReturn]
      exact inductionHypothesis paired.tail (same.after c)

/-- Where all carriage returns have line feeds behind them, a place moves in the text only. -/
theorem sameSpot_unified {s : Text} {i : Nat} (paired : s.Paired) (inText : i ≤ s.length)
    (whole : s[i]? ≠ some '\n') : ((ofIndex s i).unified s).SameSpot (ofIndex s i) := by
  have wholeBehind : (s.drop i).head? ≠ some '\n' := by rwa [List.head?_drop]
  have lengthEq : (s.take i).length = i := List.length_take_of_le inText
  have here : ofIndex s i = start.past (s.take i) := by
    have counted := ofIndex_length_append (s.take i) (s.drop i)
    rwa [List.take_append_drop, lengthEq] at counted
  have splitUnified : unifyLineEndings s =
      unifyLineEndings (s.take i) ++ unifyLineEndings (s.drop i) := by
    rw [← Text.unifyLineEndings_append _ wholeBehind, List.take_append_drop]
  have there : (ofIndex s i).unified s = start.past (unifyLineEndings (s.take i)) := by
    have moved := unified_ofIndex (List.take_append_drop i s).symm wholeBehind splitUnified
    rw [lengthEq] at moved
    rw [moved, splitUnified, ofIndex_length_append]
  rw [there, here]
  exact SameSpot.past_unifyLineEndings (paired.take whole) ⟨rfl, rfl⟩

end Place

/-! ## Scanning goes the same way -/

/-- The error in scanning the text with unified line endings. -/
def ScanError.unified (s : Text) : ScanError → ScanError
  | .unexpectedCharacter char place => .unexpectedCharacter char (place.unified s)
  | .unterminatedString place => .unterminatedString (place.unified s)

theorem ScanError.unified_located (s : Text) (fault : Lexeme.Fault) (place : Place) :
    (fault.located place).unified s = fault.located (place.unified s) := by
  cases fault <;> rfl

namespace Token

/-- The token of the text with unified line endings. -/
def unified (s : Text) (token : Token) : Token :=
  ⟨token.kind, unifyLineEndings token.lexeme, token.place.unified s⟩

/-- What is scanned of the text with unified line endings. -/
def scannedUnified (s : Text) : Except ScanError (List Token) → Except ScanError (List Token)
  | .ok tokens => .ok (tokens.map (unified s))
  | .error error => .error (error.unified s)

theorem scannedUnified_map (s : Text) (lexeme : Lexeme) (place : Place)
    (result : Except ScanError (List Token)) :
    scannedUnified s (result.map (ofLexeme lexeme place :: ·)) =
      (scannedUnified s result).map (ofLexeme lexeme.unified (place.unified s) :: ·) := by
  cases result <;> rfl

theorem isBlank_unifiedChar {c : Char} (blank : Lexeme.isBlank c = true) :
    Lexeme.isBlank (Text.unifiedChar c) = true := by
  unfold Text.unifiedChar
  split
  · rfl
  · exact blank

variable {s front back rest : Text} {c : Char} {lexeme : Lexeme}
  {result : Except ScanError (List Token)}

/-- Behind the front part of a text, the text with unified line endings is scanned as the text is.
Its own front part is whichever leaves the same to come: in the middle of a line ending of two
characters, it is still the one in front of the line ending. -/
def ScansAlike (s front : Text) (result : Except ScanError (List Token)) : Prop :=
  ∀ back front', s = front ++ back → unifyLineEndings s = front' ++ unifyLineEndings back →
    scanFrom (.ofIndex (unifyLineEndings s) front'.length) (unifyLineEndings back) =
      scannedUnified s result

theorem scansAlike_of_split (split : s = front ++ back)
    (alike : ∀ front', unifyLineEndings s = front' ++ unifyLineEndings back →
      scanFrom (.ofIndex (unifyLineEndings s) front'.length) (unifyLineEndings back) =
        scannedUnified s result) : ScansAlike s front result := by
  intro other front' otherSplit
  obtain rfl : other = back := List.append_cancel_left (otherSplit.symm.trans split)
  exact alike front'

theorem scansAlike_end (s : Text) : ScansAlike s s (.ok [endMarker (.ofIndex s s.length)]) := by
  have split := (List.append_nil s).symm
  apply scansAlike_of_split split
  intro front' splitUnified
  have endEq := Place.unified_ofIndex split nofun splitUnified
  rw [unifyLineEndings, scanFrom_nil, ← endEq]
  rfl

/-- A blank stays a blank, or goes with the line feed behind it. -/
theorem ScansAlike.skip (split : s = front ++ c :: back) (blank : Lexeme.isBlank c = true)
    (behind : ScansAlike s (front ++ [c]) result) : ScansAlike s front result := by
  have splitBehind : s = (front ++ [c]) ++ back := by rw [split, List.append_cons]
  apply scansAlike_of_split split
  intro front' splitUnified
  by_cases inside : c = '\r' ∧ back.head? = some '\n'
  · obtain ⟨rfl, isFeed⟩ := inside
    rw [Text.unifyLineEndings_return_cons isFeed] at splitUnified ⊢
    exact behind back front' splitBehind splitUnified
  · rw [Text.unifyLineEndings_cons (not_and.mp inside)] at splitUnified ⊢
    have nextPlace :
        (Place.ofIndex (unifyLineEndings s) front'.length).after (Text.unifiedChar c) =
          .ofIndex (unifyLineEndings s) (front' ++ [Text.unifiedChar c]).length := by
      rw [splitUnified]
      exact Place.past_ofIndex front' [Text.unifiedChar c] (unifyLineEndings back)
    rw [scanFrom_of_isBlank (isBlank_unifiedChar blank), nextPlace]
    exact behind back _ splitBehind (splitUnified.trans (List.append_cons _ _ _))

theorem scansAlike_stop {fault : Lexeme.Fault} (split : s = front ++ c :: back)
    (solid : Lexeme.isBlank c = false) (cutEq : Lexeme.cut c back = .error fault) :
    ScansAlike s front (.error (fault.located (.ofIndex s front.length))) := by
  apply scansAlike_of_split split
  intro front' splitUnified
  have placeEq := Place.unified_ofIndex split (Lexeme.head?_ne_feed_of_solid solid) splitUnified
  have cutUnified := Lexeme.cut_unifyLineEndings solid back
  rw [cutEq] at cutUnified
  rw [Text.unifyLineEndings_cons_of_ne (Lexeme.ne_return_of_solid solid),
    scanFrom_of_cut_error solid cutUnified, scannedUnified, ScanError.unified_located, placeEq]

theorem ScansAlike.cut (split : s = front ++ c :: back) (solid : Lexeme.isBlank c = false)
    (cutEq : Lexeme.cut c back = .ok (lexeme, rest))
    (behind : ScansAlike s (front ++ lexeme.spelling) result) :
    ScansAlike s front (result.map (ofLexeme lexeme (.ofIndex s front.length) :: ·)) := by
  apply scansAlike_of_split split
  intro front' splitUnified
  have placeEq := Place.unified_ofIndex split (Lexeme.head?_ne_feed_of_solid solid) splitUnified
  have cutUnified := Lexeme.cut_unifyLineEndings solid back
  rw [cutEq] at cutUnified
  rw [Text.unifyLineEndings_cons_of_ne (Lexeme.ne_return_of_solid solid)] at splitUnified ⊢
  have spelled : s = (front ++ lexeme.spelling) ++ rest := by
    rw [split, Lexeme.cut_spelling_append cutEq, List.append_assoc]
  have spelledUnified : unifyLineEndings s =
      front' ++ (lexeme.unified.spelling ++ unifyLineEndings rest) := by
    rw [splitUnified, Lexeme.cut_spelling_append cutUnified]
  have nextPlace :
      (Place.ofIndex (unifyLineEndings s) front'.length).past lexeme.unified.spelling =
        .ofIndex (unifyLineEndings s) (front' ++ lexeme.unified.spelling).length := by
    rw [spelledUnified]
    exact Place.past_ofIndex front' lexeme.unified.spelling (unifyLineEndings rest)
  have behindEq := behind rest (front' ++ lexeme.unified.spelling) spelled
    (by rw [spelledUnified, List.append_assoc])
  rw [scanFrom_of_cut_ok solid cutUnified, nextPlace, behindEq, scannedUnified_map, placeEq]

theorem scansAlike_scanFrom (split : s = front ++ back) :
    ScansAlike s front (scanFrom (.ofIndex s front.length) back) :=
  scanFrom_along (scansAlike_end s) (fun _ _ _ _ => .skip) (fun _ _ _ _ => scansAlike_stop)
    (fun _ _ _ _ _ _ => .cut) split

/-- The tokens of a text with unified line endings are those of the text, with unified line
endings in them. -/
theorem scan_unifyLineEndings (s : Text) :
    scan (unifyLineEndings s) = scannedUnified s (scan s) :=
  @scansAlike_scanFrom s [] s rfl s [] rfl rfl

end Token

end Lunette
