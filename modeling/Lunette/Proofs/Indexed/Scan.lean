import Lunette.Indexed.Scan
import Lunette.Proofs.Reader.Run
import Lunette.Proofs.Token.Scan

/-!
# Scanning along a reader gives the scanned tokens

The reader stands between what it has read and what is left, and its counters are the place
behind what it has read.  Every step of scanning moves it over the characters of one blank or
one lexeme, and it is asked for a character only where one is left.
-/

namespace Lunette

/-- The reader that has read the one text and has the other in front of it. -/
def Reader.between (front back : Text) : Reader :=
  let place := Place.start.past front
  ⟨front ++ back, place.offset, place.line, place.column⟩

namespace Reader

variable {front back : Text} {c : Char}

theorem position_between : (between front back).position = front.length := by
  simp [between, Place.start]

theorem getElem?_source_between (back : Text) :
    (between front back).source[front.length]? = back.head? := by
  rw [between, List.getElem?_append_right (Nat.le_refl _), Nat.sub_self, List.head?_eq_getElem?]

theorem peek_between : (between front back).peek 0 = back.head? := by
  unfold peek
  rw [position_between, Int.add_zero, if_pos (Int.natCast_nonneg _), Int.toNat_natCast,
    getElem?_source_between]

theorem atEnd_between : (between front back).atEnd = back.isEmpty := by
  have lengthEq : (between front back).length = front.length + back.length := by
    simp [length, between]
  unfold atEnd
  rw [position_between, lengthEq]
  cases back with
  | nil => simp
  | cons c back =>
      simp only [List.length_cons, List.isEmpty_cons, decide_eq_false_iff_not]
      omega

theorem past_between : (between front (c :: back)).past c = between (front ++ [c]) back := by
  have placeEq : Place.start.past (front ++ [c]) = (Place.start.past front).after c := by
    simp [Place.past]
  simp only [past, between, placeEq, List.append_assoc, List.singleton_append]

/-- Where a character is left it is read. -/
theorem run_next_between :
    EStateM.run Reader.next (between front (c :: back)) =
      .ok c (between (front ++ [c]) back) := by
  rw [run_next_of_at? (at?_of_peek_zero peek_between), past_between]

end Reader

namespace Indexed.Scanning

open Reader

variable {front back : Text} {c : Char}

theorem run_ofAction {α : Type} {action : Reader.Action α} {reader after : Reader} {value : α}
    (actionEq : EStateM.run action reader = .ok value after) :
    (ofAction action).run reader = some (.ok value, after) := by
  change outcome (EStateM.run action reader) = _
  rw [actionEq]
  rfl

theorem run_next :
    next.run (between front (c :: back)) = some (.ok c, between (front ++ [c]) back) :=
  run_ofAction run_next_between

/-- A character is accepted where it is the next one. -/
theorem run_accept_of_eq :
    (accept [c]).run (between front (c :: back)) =
      some (.ok true, between (front ++ [c]) back) := by
  have seen : ((between front (c :: back)).peek 0).toList = [c] := by
    rw [peek_between]
    rfl
  apply run_ofAction
  rw [Reader.run_accept_of_eq seen, EStateM.run_bind, run_next_between]
  rfl

theorem run_accept_of_ne (other : back.head? ≠ some c) :
    (accept [c]).run (between front back) = some (.ok false, between front back) := by
  have notSeen : ((between front back).peek 0).toList ≠ [c] := by
    rw [peek_between]
    cases back with
    | nil => simp
    | cons d back => simpa using other
  exact run_ofAction (Reader.run_accept_of_ne notSeen)

/-- Reading on in a class passes the longest stretch of the class. -/
theorem run_skipWhile (inClass : Char → Bool) {bound : Nat} (within : back.length < bound) :
    (skipWhile inClass bound).run (between front back) =
      some (.ok (), between (front ++ back.takeWhile inClass) (back.dropWhile inClass)) := by
  induction bound generalizing front back with
  | zero => exact absurd within (Nat.not_lt_zero _)
  | succ bound inductionHypothesis =>
      rw [skipWhile, Steps.run_bind_of_ok (Steps.run_get _), peek_between]
      cases back with
      | nil =>
          rw [List.takeWhile_nil, List.append_nil]
          rfl
      | cons c back =>
          dsimp only [List.head?_cons]
          cases isIn : inClass c with
          | true =>
              rw [if_pos rfl, Steps.run_bind_of_ok run_next,
                inductionHypothesis (Nat.lt_of_succ_lt_succ within),
                List.takeWhile_cons_of_pos isIn, List.dropWhile_cons_of_pos isIn,
                List.append_assoc, List.singleton_append]
          | false =>
              have isOut : ¬ inClass c = true := Bool.eq_false_iff.mp isIn
              rw [if_neg Bool.false_ne_true, List.takeWhile_cons_of_neg isOut,
                List.dropWhile_cons_of_neg isOut, List.append_nil]
              rfl

/-- Reading on to a quote passes everything in front of the first one. -/
theorem run_skipToQuote {bound : Nat} (within : back.length < bound) :
    (skipToQuote bound).run (between front back) =
      some (.ok (), between (front ++ back.takeWhile (· != Text.doubleQuote))
        (back.dropWhile (· != Text.doubleQuote))) := by
  induction bound generalizing front back with
  | zero => exact absurd within (Nat.not_lt_zero _)
  | succ bound inductionHypothesis =>
      rw [skipToQuote, Steps.run_bind_of_ok (Steps.run_get _), atEnd_between]
      cases back with
      | nil =>
          rw [List.takeWhile_nil, List.append_nil]
          rfl
      | cons c back =>
          rw [peek_between, List.isEmpty_cons, if_neg Bool.false_ne_true, List.head?_cons]
          by_cases isQuote : c = Text.doubleQuote
          · subst isQuote
            rw [if_pos rfl, List.takeWhile_cons_of_neg (by simp),
              List.dropWhile_cons_of_neg (by simp), List.append_nil]
            rfl
          · have other : (c != Text.doubleQuote) = true := by simpa using isQuote
            rw [if_neg (by simpa using isQuote), Steps.run_bind_of_ok run_next,
              inductionHypothesis (Nat.lt_of_succ_lt_succ within)]
            simp only [List.takeWhile_cons, List.dropWhile_cons, other, if_true,
              List.append_assoc, List.singleton_append]

theorem slice_of_source {reader : Reader} {front word back : Text}
    (sourceEq : reader.source = front ++ (word ++ back)) :
    slice reader front.length (front.length + word.length) = word := by
  have lengthEq : (front.length + word.length - front.length : Int).toNat = word.length := by
    omega
  unfold slice
  rw [lengthEq, Int.toNat_natCast, sourceEq, List.drop_left, List.take_left]

theorem slice_between (front word back : Text) :
    slice (between (front ++ word) back) front.length (front ++ word).length = word := by
  rw [List.length_append, Int.natCast_add]
  exact slice_of_source (List.append_assoc front word back)

theorem place_between (front back : Text) :
    place (between front back) = Place.start.past front :=
  rfl

theorem run_tokenFrom (front word back s : Text) (kind : Kind) :
    (tokenFrom (between front s) kind).run (between (front ++ word) back) =
      some (.ok (some ⟨kind, word, Place.start.past front⟩), between (front ++ word) back) := by
  rw [tokenFrom, Steps.run_bind_of_ok (Steps.run_get _), position_between, position_between,
    slice_between, place_between]
  rfl

/-! ## Tokens -/

/-- The answer is the lexeme that has been cut behind the read text, as a token, or the fault
that stopped the cutting. -/
def Cuts (front : Text) (cut : Except Lexeme.Fault (Lexeme × Text))
    (answer : Option (Except Fault (Option Token) × Reader)) : Prop :=
  match cut with
  | .ok (lexeme, rest) =>
      answer = some (.ok (some (Token.ofLexeme lexeme (Place.start.past front))),
        between (front ++ lexeme.spelling) rest)
  | .error fault =>
      ∃ after, answer = some (.error (.scan (fault.located (Place.start.past front))), after)

theorem cuts_tokenFrom {front word rest s : Text} {kind : Kind} (notString : kind ≠ .string) :
    Cuts front (.ok (⟨kind, word⟩, rest))
      ((tokenFrom (between front s) kind).run (between (front ++ word) rest)) := by
  have spellingEq : Lexeme.spelling ⟨kind, word⟩ = word := Lexeme.spelling_of_ne_string notString
  rw [Cuts, run_tokenFrom, spellingEq]
  rfl

/-- Between its quotes a string literal has the characters in front of the closing one. -/
theorem slice_literal (front word rest s : Text) (c d : Char) :
    slice (between (front ++ [c] ++ word ++ [d]) rest) ((between front s).position + 1)
      ((between (front ++ [c] ++ word ++ [d]) rest).position - 1) = word := by
  have startEq : ((between front s).position + 1 : Int) = (front ++ [c]).length := by
    rw [position_between, List.length_append, List.length_singleton, Int.natCast_add]
    rfl
  have stopEq : ((between (front ++ [c] ++ word ++ [d]) rest).position - 1 : Int) =
      (front ++ [c]).length + word.length := by
    rw [position_between, List.length_append, List.length_append, List.length_singleton]
    omega
  have sourceEq : (between (front ++ [c] ++ word ++ [d]) rest).source =
      front ++ [c] ++ (word ++ d :: rest) := by
    simp [between]
  rw [startEq, stopEq]
  exact slice_of_source sourceEq

/-- A string literal is cut from its quotes. -/
theorem cuts_stringFrom (front s : Text) {back : Text} {bound : Nat}
    (within : back.length < bound) :
    Cuts front (Lexeme.cutString back)
      ((stringFrom bound (between front s)).run
        (between (front ++ [Text.doubleQuote]) back)) := by
  rw [stringFrom, Steps.run_bind_of_ok (run_skipToQuote within),
    Steps.run_bind_of_ok (Steps.run_get _), atEnd_between, Lexeme.cutString]
  cases dropEq : back.dropWhile (· != Text.doubleQuote) with
  | nil => exact ⟨_, rfl⟩
  | cons quote rest =>
      have isQuote : quote = Text.doubleQuote := by
        simpa [dropEq] using List.head?_dropWhile_not (· != Text.doubleQuote) back
      subst isQuote
      rw [List.isEmpty_cons, if_neg Bool.false_ne_true, Steps.run_bind_of_ok run_next,
        Steps.run_bind_of_ok (Steps.run_get _), slice_literal, place_between]
      have spellingEq : front ++ [Text.doubleQuote] ++ back.takeWhile (· != Text.doubleQuote) ++
          [Text.doubleQuote] =
          front ++ Lexeme.spelling ⟨.string, back.takeWhile (· != Text.doubleQuote)⟩ := by
        simp [Lexeme.spelling]
      rw [spellingEq]
      rfl

/-- Where a sign may be one of two characters, the one behind it decides. -/
theorem cuts_accept (front back s : Text) (c : Char) (kind : Kind) (notString : kind ≠ .string)
    (alone : Except Lexeme.Fault (Lexeme × Text)) (steps : Scanning (Option Token)) :
    Cuts front alone (steps.run (between (front ++ [c]) back)) → Cuts front
      (match back with
        | '=' :: rest => .ok (⟨kind, [c, '=']⟩, rest)
        | _ => alone)
      ((do if ← accept ['='] then tokenFrom (between front s) kind else steps :
        Scanning (Option Token)).run (between (front ++ [c]) back)) := by
  intro aloneCuts
  by_cases isEquals : back.head? = some '='
  · obtain ⟨rest, rfl⟩ := List.head?_eq_some_iff.mp isEquals
    rw [Steps.run_bind_of_ok run_accept_of_eq, if_pos rfl, List.append_assoc]
    exact cuts_tokenFrom notString
  · rw [Steps.run_bind_of_ok (run_accept_of_ne isEquals), if_neg Bool.false_ne_true]
    split
    · exact absurd rfl isEquals
    · exact aloneCuts

/-- A lexeme and its token are chosen by the same conditions. -/
theorem cuts_ite {front : Text} {condition : Prop} [Decidable condition]
    {yes no : Except Lexeme.Fault (Lexeme × Text)} {yesSteps noSteps : Scanning (Option Token)}
    {reader : Reader} (first : condition → Cuts front yes (yesSteps.run reader))
    (second : ¬ condition → Cuts front no (noSteps.run reader)) :
    Cuts front (if condition then yes else no)
      ((if condition then yesSteps else noSteps).run reader) := by
  by_cases holds : condition
  · rw [if_pos holds, if_pos holds]
    exact first holds
  · rw [if_neg holds, if_neg holds]
    exact second holds

theorem cuts_tokenBehind (front s : Text) (c : Char) {back : Text} {bound : Nat}
    (within : back.length < bound) :
    Cuts front (Lexeme.cut c back)
      ((tokenBehind bound (between front s) c).run (between (front ++ [c]) back)) := by
  unfold tokenBehind Lexeme.cut
  cases signEq : Kind.ofSign? c with
  | some kind => exact cuts_tokenFrom (Kind.ofSign?_ne_string signEq)
  | none =>
      refine cuts_ite (fun isEquals => ?_) fun _ => ?_
      · subst isEquals
        exact cuts_accept front back s '=' .equal (by decide) (.ok (⟨.assign, ['=']⟩, back))
          (tokenFrom (between front s) .assign) (cuts_tokenFrom (by decide))
      refine cuts_ite (fun isTilde => ?_) fun _ => ?_
      · subst isTilde
        exact cuts_accept front back s '~' .notEqual (by decide)
          (.error (.unexpectedCharacter '~'))
          (throw (.scan (.unexpectedCharacter '~' (place (between front s))))) ⟨_, rfl⟩
      refine cuts_ite (fun isQuote => ?_) fun _ => ?_
      · subst isQuote
        exact cuts_stringFrom front s within
      refine cuts_ite (fun _ => ?_) fun _ => ?_
      · rw [Steps.run_bind_of_ok (run_skipWhile _ within), List.append_assoc]
        exact cuts_tokenFrom (by decide)
      refine cuts_ite (fun _ => ?_) fun _ => ⟨_, rfl⟩
      rw [Steps.run_bind_of_ok (run_skipWhile _ within), List.append_assoc,
        Steps.run_bind_of_ok (Steps.run_get _), position_between, position_between, slice_between]
      exact cuts_tokenFrom (Kind.ofWord_ne_string _)

theorem run_token_of_isBlank (bound : Nat) (blank : Lexeme.isBlank c = true) :
    (token bound).run (between front (c :: back)) =
      some (.ok none, between (front ++ [c]) back) := by
  rw [token, Steps.run_bind_of_ok (Steps.run_get _), Steps.run_bind_of_ok run_next,
    if_pos blank]
  rfl

theorem cuts_token {bound : Nat} (within : back.length < bound)
    (solid : Lexeme.isBlank c = false) :
    Cuts front (Lexeme.cut c back) ((token bound).run (between front (c :: back))) := by
  rw [token, Steps.run_bind_of_ok (Steps.run_get _), Steps.run_bind_of_ok run_next, solid,
    if_neg Bool.false_ne_true]
  exact cuts_tokenBehind front (c :: back) c within

/-- Scanning along a reader ends, with the tokens or the fault of the text. -/
theorem answer_tokens (front back : Text) {bound : Nat} (within : back.length < bound) :
    ((tokens bound).run (between front back)).map Prod.fst =
      some ((Token.scanFrom (Place.start.past front) back).mapError .scan) := by
  induction bound generalizing front back with
  | zero => exact absurd within (Nat.not_lt_zero _)
  | succ bound inductionHypothesis =>
      rw [tokens, Steps.run_bind_of_ok (Steps.run_get _), atEnd_between]
      cases back with
      | nil =>
          rw [List.isEmpty_nil, if_pos rfl, place_between, Token.scanFrom_nil]
          rfl
      | cons c back =>
          have fewer : back.length < bound := Nat.lt_of_succ_lt_succ within
          rw [List.isEmpty_cons, if_neg Bool.false_ne_true]
          cases blank : Lexeme.isBlank c with
          | true =>
              rw [Steps.run_bind_of_ok (run_token_of_isBlank _ blank),
                Token.scanFrom_of_isBlank blank, ← Place.past_concat]
              exact inductionHypothesis _ _ fewer
          | false =>
              have cuts : Cuts front (Lexeme.cut c back)
                  ((token bound).run (between front (c :: back))) := cuts_token fewer blank
              cases cutEq : Lexeme.cut c back with
              | error fault =>
                  rw [cutEq] at cuts
                  obtain ⟨after, tokenEq⟩ := cuts
                  rw [Steps.run_bind, tokenEq, Token.scanFrom_of_cut_error blank cutEq]
                  rfl
              | ok found =>
                  obtain ⟨lexeme, rest⟩ := found
                  rw [cutEq] at cuts
                  have restFewer : rest.length < bound :=
                    Nat.lt_of_le_of_lt (Lexeme.length_le_of_cut cutEq) fewer
                  rw [Steps.run_bind_of_ok cuts, Token.scanFrom_of_cut_ok blank cutEq,
                    ← Place.past_append]
                  dsimp only
                  rw [Steps.map_fst_run_map, inductionHypothesis _ _ restFewer]
                  cases Token.scanFrom (Place.start.past (front ++ lexeme.spelling)) rest <;> rfl

end Indexed.Scanning

end Lunette
