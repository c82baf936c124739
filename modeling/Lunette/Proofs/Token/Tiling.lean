import Lunette.Proofs.Lexeme.Layout
import Lunette.Proofs.Place.Counted

/-!
# Tokens tile the text

A token takes up a stretch of the text that it has been scanned from: its lexeme, and two
quotes if it is a string literal.  The stretches of scanned tokens follow one another without
overlapping, each token has the place that is counted for its stretch, and what stands
outside all stretches is blank.  So no character of the text is lost.

Tokens are followed through the text by index.  What holds of all stretches is carried along
the tokens, from the index behind the stretch before.
-/

namespace Lunette

namespace Token

/-- The number of characters of source text that a token takes up. -/
def width (token : Token) : Nat :=
  if token.kind = .string then token.lexeme.length + 2 else token.lexeme.length

theorem length_spelling_toLexeme (token : Token) :
    token.toLexeme.spelling.length = token.width := by
  unfold width Lexeme.spelling toLexeme
  by_cases isString : token.kind = .string
  · simp [isString]
  · simp [isString]

/-- The tokens stand in the text from the index on, with blanks in front of each and nothing
but blanks behind the last. -/
inductive Tiled (s : Text) : Nat → List Token → Prop where
  | finish {index : Nat} (inText : index ≤ s.length)
      (blank : ∀ c ∈ s.drop index, Lexeme.isBlank c = true) : Tiled s index []
  | token {index start : Nat} {gap rest : Text} {token : Token} {tokens : List Token}
      (split : s.drop index = gap ++ (token.toLexeme.spelling ++ rest))
      (blank : ∀ c ∈ gap, Lexeme.isBlank c = true) (startEq : start = index + gap.length)
      (valid : token.toLexeme.Valid) (placeEq : token.place = .ofIndex s start)
      (more : Tiled s (start + token.width) tokens) : Tiled s index (token :: tokens)

/-! ## Scanned tokens are tiled -/

/-- A blank may stand in front of all tokens. -/
theorem Tiled.skip {s : Text} {index : Nat} {c : Char} {tokens : List Token}
    (here : s.drop index = c :: s.drop (index + 1)) (blank : Lexeme.isBlank c = true)
    (tiled : Tiled s (index + 1) tokens) : Tiled s index tokens := by
  cases tiled with
  | finish inText rest =>
      apply finish (Nat.le_of_succ_le inText)
      rw [here]
      exact List.forall_mem_cons.mpr ⟨blank, rest⟩
  | @token _ start gap rest token tokens split gapBlank startEq valid placeEq more =>
      have wider : s.drop index = (c :: gap) ++ (token.toLexeme.spelling ++ rest) := by
        rw [here, split, List.cons_append]
      have widerBlank : ∀ d ∈ c :: gap, Lexeme.isBlank d = true :=
        List.forall_mem_cons.mpr ⟨blank, gapBlank⟩
      have widerStart : start = index + (c :: gap).length := by
        rw [List.length_cons, startEq]
        omega
      exact .token wider widerBlank widerStart valid placeEq more

/-- The tokens that are scanned from an index on stand in the text from there on. -/
theorem tiled_of_scanFrom {s front back : Text} (split : s = front ++ back) :
    ∀ tokens, scanFrom (.ofIndex s front.length) back = .ok tokens →
      ∃ body, tokens = body ++ [endMarker (.ofIndex s s.length)] ∧ Tiled s front.length body := by
  refine @scanFrom_along s (fun front result => ∀ tokens, result = .ok tokens →
    ∃ body, tokens = body ++ [endMarker (.ofIndex s s.length)] ∧ Tiled s front.length body)
    ?ends ?skips ?stops ?cuts front back split
  case ends =>
    rintro _ ⟨⟩
    exact ⟨[], rfl, .finish (Nat.le_refl _) (by simp)⟩
  case skips =>
    intro front c back result split blank behind tokens okEq
    obtain ⟨body, tokensEq, tiled⟩ := behind tokens okEq
    rw [List.length_append] at tiled
    exact ⟨body, tokensEq, tiled.skip (by simp [split]) blank⟩
  case stops => nofun
  case cuts =>
    intro front c back lexeme rest result split _ cutEq behind tokens okEq
    cases result with
    | error error => cases okEq
    | ok others =>
        cases okEq
        obtain ⟨body, rfl, tiled⟩ := behind others rfl
        have dropEq : s.drop front.length = [] ++ (lexeme.spelling ++ rest) := by
          rw [split, List.drop_left, Lexeme.cut_spelling_append cutEq, List.nil_append]
        have ownWidth : lexeme.spelling.length =
            (ofLexeme lexeme (.ofIndex s front.length)).width :=
          length_spelling_toLexeme (ofLexeme lexeme _)
        rw [List.length_append, ownWidth] at tiled
        have valid : (ofLexeme lexeme (.ofIndex s front.length)).toLexeme.Valid :=
          Lexeme.valid_of_cut cutEq
        exact ⟨_ :: body, rfl, .token dropEq (List.forall_mem_nil _) rfl valid rfl tiled⟩

/-- The tokens of a whole text stand in it from its start on, and the end marker at its end. -/
theorem tiled_of_scan {s : Text} {tokens : List Token} (scanEq : scan s = .ok tokens) :
    ∃ body, tokens = body ++ [endMarker (.ofIndex s s.length)] ∧ Tiled s 0 body :=
  @tiled_of_scanFrom s [] s rfl tokens scanEq

/-! ## What holds of all stretches -/

/-- The index is inside the stretch of the token. -/
def Holds (token : Token) (i : Nat) : Prop :=
  token.place.offset ≤ i ∧ (i : Int) < token.place.offset + token.width

/-- The stretch of the first token ends where that of the second one starts, or sooner. -/
def Before (first second : Token) : Prop :=
  first.place.offset < second.place.offset ∧
    first.place.offset + first.width ≤ second.place.offset

/-- The token takes up a stretch of the text that is spelled as the token is. -/
structure Covers (s : Text) (token : Token) : Prop where
  positive : 0 < token.width
  inText : 0 ≤ token.place.offset ∧ token.place.offset + token.width ≤ s.length
  spelled : (s.drop token.place.offset.toNat).take token.width = token.toLexeme.spelling

namespace Tiled

variable {s : Text} {index : Nat} {tokens : List Token}

theorem le_offset (tiled : Tiled s index tokens) :
    ∀ token ∈ tokens, (index : Int) ≤ token.place.offset := by
  induction tiled with
  | finish _ _ => exact List.forall_mem_nil _
  | @token index start gap rest token tokens _ _ startEq _ placeEq _ inductionHypothesis =>
      rw [List.forall_mem_cons]
      constructor
      · rw [placeEq, startEq]
        exact Int.ofNat_le.mpr (Nat.le_add_right _ _)
      · intro other member
        have behind := inductionHypothesis other member
        omega

theorem kind_ne_endOfInput (tiled : Tiled s index tokens) :
    ∀ token ∈ tokens, token.kind ≠ .endOfInput := by
  induction tiled with
  | finish _ _ => exact List.forall_mem_nil _
  | token _ _ _ valid _ _ inductionHypothesis =>
      exact List.forall_mem_cons.mpr ⟨valid.kind_ne_endOfInput, inductionHypothesis⟩

private theorem drop_start {index start : Nat} {gap back : Text}
    (split : s.drop index = gap ++ back) (startEq : start = index + gap.length) :
    s.drop start = back := by
  rw [startEq, ← List.drop_drop, split, List.drop_left]

theorem covers (tiled : Tiled s index tokens) : ∀ token ∈ tokens, Covers s token := by
  induction tiled with
  | finish _ _ => exact List.forall_mem_nil _
  | @token index start gap rest token tokens split _ startEq valid placeEq _
      inductionHypothesis =>
      have dropEq := drop_start split startEq
      have offsetEq : token.place.offset = start := by rw [placeEq, Place.ofIndex]
      have positive : 0 < token.width := by
        rw [← length_spelling_toLexeme]
        exact List.length_pos_iff.mpr valid.spelling_ne_nil
      have inText : start + token.width ≤ s.length := by
        have lengths := congrArg List.length dropEq
        rw [List.length_drop, List.length_append, length_spelling_toLexeme] at lengths
        omega
      have spelled : (s.drop token.place.offset.toNat).take token.width =
          token.toLexeme.spelling := by
        rw [offsetEq, Int.toNat_natCast, dropEq, ← length_spelling_toLexeme, List.take_left]
      rw [List.forall_mem_cons]
      constructor
      · exact ⟨positive, by omega, spelled⟩
      · exact inductionHypothesis

/-- Every token has the place that is counted for its first character, which is no blank. -/
theorem exists_start (tiled : Tiled s index tokens) :
    ∀ token ∈ tokens, ∃ start c, token.place = .ofIndex s start ∧ s[start]? = some c ∧
      Lexeme.isBlank c = false := by
  induction tiled with
  | finish _ _ => exact List.forall_mem_nil _
  | @token index start gap rest token tokens split _ startEq valid placeEq _
      inductionHypothesis =>
      obtain ⟨c, front, spellingEq⟩ := List.exists_cons_of_ne_nil valid.spelling_ne_nil
      have dropEq : s.drop start = c :: (front ++ rest) := by
        rw [drop_start split startEq, spellingEq, List.cons_append]
      have here : s[start]? = some c := by rw [← List.head?_drop, dropEq, List.head?_cons]
      have offers : Lexeme.Offers (c :: (front ++ rest)) token.toLexeme rest :=
        ⟨valid, by rw [spellingEq, List.cons_append]⟩
      exact List.forall_mem_cons.mpr
        ⟨⟨start, c, placeEq, here, offers.isBlank_eq_false⟩, inductionHypothesis⟩

theorem pairwise_before (tiled : Tiled s index tokens) : tokens.Pairwise Before := by
  induction tiled with
  | finish _ _ => exact .nil
  | @token index start gap rest token tokens split blank startEq valid placeEq more
      inductionHypothesis =>
      apply List.Pairwise.cons
      · intro other member
        have behind := more.le_offset other member
        have whole : Tiled s index (token :: tokens) :=
          .token split blank startEq valid placeEq more
        have positive := (whole.covers token List.mem_cons_self).positive
        have offsetEq : token.place.offset = start := by rw [placeEq, Place.ofIndex]
        unfold Before
        omega
      · exact inductionHypothesis

/-- Outside the stretches of all tokens the text is blank. -/
theorem isBlank_of_not_holds (tiled : Tiled s index tokens) :
    ∀ {i : Nat} {c : Char}, index ≤ i → s[i]? = some c → (∀ token ∈ tokens, ¬ token.Holds i) →
      Lexeme.isBlank c = true := by
  induction tiled with
  | @finish index _ blank =>
      intro i c behind here _
      apply blank
      apply List.mem_of_getElem? (i := i - index)
      rw [List.getElem?_drop, Nat.add_sub_cancel' behind, here]
  | @token index start gap rest token tokens split blank startEq _ placeEq _
      inductionHypothesis =>
      intro i c behind here outside
      rw [List.forall_mem_cons] at outside
      obtain ⟨outsideFirst, outsideRest⟩ := outside
      have offsetEq : token.place.offset = start := by rw [placeEq, Place.ofIndex]
      by_cases inGap : i < start
      · apply blank
        apply List.mem_of_getElem? (i := i - index)
        have inFront : i - index < gap.length := by omega
        have gapEq : (s.drop index)[i - index]? = gap[i - index]? := by
          rw [split, List.getElem?_append_left inFront]
        rw [← gapEq, List.getElem?_drop, Nat.add_sub_cancel' behind, here]
      · have past : start + token.width ≤ i := by
          unfold Holds at outsideFirst
          omega
        exact inductionHypothesis past here outsideRest

/-- One more gap in front of the others. -/
def gapsFrom (first : Text) (others : Nat → Text) : Nat → Text
  | 0 => first
  | i + 1 => others i

/-- The text is laid out with the lexemes of the tokens. -/
theorem exists_layOut (tiled : Tiled s index tokens) :
    ∃ gaps : Nat → Text, (∀ i, ∀ c ∈ gaps i, Lexeme.isBlank c = true) ∧
      s.drop index = Lexeme.layOut gaps (tokens.map toLexeme) := by
  induction tiled with
  | @finish index _ blank => exact ⟨fun _ => s.drop index, fun _ => blank, rfl⟩
  | @token index start gap rest token tokens split blank startEq _ _ _ inductionHypothesis =>
      obtain ⟨gaps, gapsBlank, restEq⟩ := inductionHypothesis
      have moreEq : s.drop (start + token.width) = rest := by
        rw [← List.drop_drop, drop_start split startEq, ← length_spelling_toLexeme,
          List.drop_left]
      have allBlank : ∀ i, ∀ c ∈ gapsFrom gap gaps i, Lexeme.isBlank c = true := by
        intro i
        cases i with
        | zero => exact blank
        | succ i => exact gapsBlank i
      have dropEq : s.drop index =
          Lexeme.layOut (gapsFrom gap gaps) (token.toLexeme :: tokens.map toLexeme) := by
        rw [split, ← moreEq, restEq, Lexeme.layOut, List.append_assoc]
        rfl
      exact ⟨gapsFrom gap gaps, allBlank, dropEq⟩

end Tiled

/-- The tokens take up stretches of the text, one behind the other, with blanks around them. -/
structure Tiles (s : Text) (tokens : List Token) : Prop where
  /-- Every stretch has at least one character, lies in the text and is spelled as its token. -/
  covers : ∀ token ∈ tokens, Covers s token
  /-- The stretches stand in order and do not overlap. -/
  ordered : tokens.Pairwise Before
  /-- A character that is in no stretch is a blank. -/
  blank : ∀ i c, s[i]? = some c → (∀ token ∈ tokens, ¬ token.Holds i) →
    Lexeme.isBlank c = true
  /-- The text is its blanks and the spellings of the tokens, by turns. -/
  layOut : ∃ gaps : Nat → Text, (∀ i, ∀ c ∈ gaps i, Lexeme.isBlank c = true) ∧
    s = Lexeme.layOut gaps (tokens.map toLexeme)

theorem Tiled.tiles {s : Text} {tokens : List Token} (tiled : Tiled s 0 tokens) :
    Tiles s tokens where
  covers := tiled.covers
  ordered := tiled.pairwise_before
  blank _ _ here outside := tiled.isBlank_of_not_holds (Nat.zero_le _) here outside
  layOut := tiled.exists_layOut

/-- The tokens of a text tile it, up to the end marker, which stands at the end of the text. -/
theorem tiles_of_scan {s : Text} {tokens : List Token} (scanEq : scan s = .ok tokens) :
    ∃ (body : List Token) (marker : Token), tokens = body ++ [marker] ∧
      marker.kind = .endOfInput ∧ marker.place.offset = s.length ∧
      (∀ token ∈ body, token.kind ≠ .endOfInput) ∧ Tiles s body := by
  obtain ⟨body, tokensEq, tiled⟩ := tiled_of_scan scanEq
  exact ⟨body, _, tokensEq, rfl, rfl, tiled.kind_ne_endOfInput, tiled.tiles⟩

/-- A text with tokens that touch, and with a line feed and a blank inside a string literal. -/
def touching : Text :=
  " x=\"a\n b\"\r\n".toList

/-- The tokens of the text. -/
def touchingTokens : List Token :=
  [⟨.identifier, ['x'], ⟨1, 1, 2⟩⟩, ⟨.assign, ['='], ⟨2, 1, 3⟩⟩,
   ⟨.string, ['a', '\n', ' ', 'b'], ⟨3, 1, 4⟩⟩, ⟨.endOfInput, [], ⟨11, 3, 1⟩⟩]

theorem tiles_touching :
    scan touching = .ok touchingTokens ∧
      ∃ (body : List Token) (marker : Token), touchingTokens = body ++ [marker] ∧
        marker.kind = .endOfInput ∧ marker.place.offset = touching.length ∧
        (∀ token ∈ body, token.kind ≠ .endOfInput) ∧ Tiles touching body := by
  have scanEq : scan touching = .ok touchingTokens := by decide +kernel
  exact ⟨scanEq, tiles_of_scan scanEq⟩

end Token

end Lunette
