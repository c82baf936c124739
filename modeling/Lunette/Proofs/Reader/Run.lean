import Lunette.Proofs.Place.Counted
import Lunette.Reader

/-!
# A reader accounts for what it has read

A reader may start at any integer and be asked for anything, also where nothing can be read and
again after a failure.  Its position, its line and its column are counted in the characters that
it has read since, and these stand one behind another in the source.  In front of the text they
are read from the end of it, and reading goes on with the first character of the text behind the
last one.
-/

namespace Lunette

namespace Text

/-- The character has the index in the text, where a negative index counts from the end. -/
def HasAt (s : Text) (index : Int) (c : Char) : Prop :=
  ∃ i : Nat, s[i]? = some c ∧ (index = i ∨ index = i - s.length)

/-- The characters of the part stand in the text one behind another, the first at the index. -/
def StandsFrom (s : Text) (start : Int) (part : Text) : Prop :=
  ∀ (i : Nat) c, part[i]? = some c → s.HasAt (start + i) c

variable {s part : Text} {start : Int} {c : Char}

theorem StandsFrom.concat (stands : s.StandsFrom start part)
    (here : s.HasAt (start + part.length) c) : s.StandsFrom start (part ++ [c]) := by
  intro i d charEq
  rcases Nat.lt_trichotomy i part.length with before | rfl | behind
  · rw [List.getElem?_append_left before] at charEq
    exact stands i d charEq
  · rw [List.getElem?_concat_length] at charEq
    cases charEq
    exact here
  · have isNone : (part ++ [c])[i]? = none := by
      rw [List.getElem?_eq_none_iff, List.length_append, List.length_singleton]
      exact behind
    rw [isNone] at charEq
    cases charEq

/-- A text has characters at the indices from its length below zero up to its length. -/
theorem HasAt.not_outside {index : Int} (has : s.HasAt index c) :
    ¬ ((s.length : Int) ≤ index ∨ index < -(s.length : Int)) := by
  obtain ⟨i, charEq, indexEq⟩ := has
  have inside := (List.getElem?_eq_some_iff.mp charEq).1
  omega

/-- Where no index counts from the end, the part is a stretch of the text. -/
theorem StandsFrom.eq_take_drop (stands : s.StandsFrom start part) (notNegative : 0 ≤ start) :
    part = (s.drop start.toNat).take part.length := by
  apply List.ext_getElem?
  intro i
  rw [List.getElem?_take, List.getElem?_drop]
  split
  · rename_i inside
    rw [List.getElem?_eq_getElem inside]
    obtain ⟨index, hereEq, indexEq⟩ := stands i _ (List.getElem?_eq_getElem inside)
    have inText := (List.getElem?_eq_some_iff.mp hereEq).1
    have isIndex : start.toNat + i = index := by omega
    rw [isIndex, hereEq]
  · rename_i outside
    exact List.getElem?_eq_none_iff.mpr (Nat.le_of_not_lt outside)

end Text

namespace Reader

variable {reader : Reader} {c : Char} {expected : Text}

/-! ## What stands at the position -/

theorem at?_eq_some_iff : reader.at? = some c ↔ reader.source.HasAt reader.position c := by
  unfold at? length
  constructor
  · intro here
    split_ifs at here with notNegative inRange
    · exact ⟨_, here, .inl (by omega)⟩
    · exact ⟨_, here, .inr (by omega)⟩
  · rintro ⟨i, charEq, indexEq⟩
    have inside := (List.getElem?_eq_some_iff.mp charEq).1
    rcases indexEq with fromStart | fromEnd
    · rw [if_pos (by omega), fromStart, Int.toNat_natCast, charEq]
    · have placeEq : ((reader.source.length : Int) + reader.position).toNat = i := by omega
      rw [if_neg (by omega), if_pos (by omega), placeEq, charEq]

theorem at?_eq_none_iff :
    reader.at? = none ↔ reader.length ≤ reader.position ∨ reader.position < -reader.length := by
  unfold at? length
  split_ifs with notNegative inRange
  · rw [List.getElem?_eq_none_iff]
    omega
  · rw [List.getElem?_eq_none_iff]
    omega
  · exact iff_of_true rfl (by omega)

/-- What is seen is what stands at the index, if that does not count from the end. -/
theorem peek_eq_some_iff {offset : Int} :
    reader.peek offset = some c ↔
      ∃ i : Nat, reader.position + offset = i ∧ reader.source[i]? = some c := by
  unfold peek
  constructor
  · intro seen
    dsimp only at seen
    split_ifs at seen with notNegative
    exact ⟨_, (Int.toNat_of_nonneg notNegative).symm, seen⟩
  · rintro ⟨i, indexEq, charEq⟩
    rw [indexEq, if_pos (Int.natCast_nonneg i), Int.toNat_natCast, charEq]

theorem peek_zero_eq_some_iff :
    reader.peek 0 = some c ↔
      ∃ i : Nat, reader.position = i ∧ reader.source[i]? = some c := by
  rw [peek_eq_some_iff, Int.add_zero]

/-- Nothing is seen outside the text. -/
theorem peek_eq_none_iff {offset : Int} :
    reader.peek offset = none ↔
      reader.position + offset < 0 ∨ reader.length ≤ reader.position + offset := by
  unfold peek length
  dsimp only
  split_ifs with notNegative
  · rw [List.getElem?_eq_none_iff]
    omega
  · exact iff_of_true rfl (.inl (Int.not_le.mp notNegative))

theorem at?_of_peek_zero (seen : reader.peek 0 = some c) : reader.at? = some c := by
  obtain ⟨i, positionEq, charEq⟩ := peek_zero_eq_some_iff.mp seen
  exact at?_eq_some_iff.mpr ⟨i, charEq, .inl positionEq⟩

/-- Where nothing stands, nothing is seen. -/
theorem peek_zero_of_at?_eq_none (nowhere : reader.at? = none) : reader.peek 0 = none := by
  cases seen : reader.peek 0 with
  | none => rfl
  | some c =>
      rw [at?_of_peek_zero seen] at nowhere
      cases nowhere

/-- Where a character stands, either it is seen or nothing is. -/
theorem peek_zero_of_at?_eq_some (here : reader.at? = some c) :
    reader.peek 0 = none ∨ reader.peek 0 = some c := by
  cases seen : reader.peek 0 with
  | none => exact .inl rfl
  | some d => exact .inr ((at?_of_peek_zero seen).symm.trans here)

/-- Where a character stands it is read. -/
theorem run_next_of_at? (here : reader.at? = some c) :
    EStateM.run next reader = .ok c (reader.past c) := by
  have notEnd : reader.atEnd = false := by
    by_contra isEnd
    have nowhere := at?_eq_none_iff.mpr (.inl (of_decide_eq_true (Bool.not_eq_false _ ▸ isEnd)))
    rw [here] at nowhere
    cases nowhere
  change EStateM.run (if reader.atEnd then _ else _ : Action Char) reader = _
  rw [notEnd, if_neg Bool.false_ne_true, here]
  rfl

/-- Why no character can be read: the position is behind the text, or so far in front of its end
that the text does not reach there. -/
inductive Faults (reader : Reader) : Fault → Prop
  | pastEnd (behind : reader.length ≤ reader.position) :
      Faults reader (.pastEnd reader.position reader.line)
  | outOfRange (before : reader.position < -reader.length)
      (isIndex : Index.least ≤ reader.position) : Faults reader .outOfRange
  | noIndex (before : reader.position < -reader.length)
      (notIndex : reader.position < Index.least) : Faults reader .noIndex

theorem Faults.outside {fault : Fault} (faults : reader.Faults fault) :
    reader.length ≤ reader.position ∨ reader.position < -reader.length := by
  cases faults with
  | pastEnd behind => exact .inl behind
  | outOfRange before | noIndex before => exact .inr before

/-- Where none stands reading fails, and the reader stays where it is. -/
theorem exists_run_next_eq_error (nowhere : reader.at? = none) :
    ∃ fault, EStateM.run next reader = .error fault reader ∧ reader.Faults fault := by
  change ∃ fault, EStateM.run (if reader.atEnd then _ else _ : Action Char) reader = _ ∧ _
  by_cases isEnd : reader.atEnd = true
  · rw [if_pos isEnd]
    exact ⟨_, rfl, .pastEnd (of_decide_eq_true isEnd)⟩
  · have notBehind : ¬ reader.length ≤ reader.position := fun behind =>
      isEnd (decide_eq_true behind)
    have before := (at?_eq_none_iff.mp nowhere).resolve_left notBehind
    rw [if_neg isEnd, nowhere]
    dsimp only
    split_ifs with notIndex
    · exact ⟨_, rfl, .noIndex before notIndex⟩
    · exact ⟨_, rfl, .outOfRange before (Int.not_lt.mp notIndex)⟩

/-- Where something else is seen than the expected text, nothing is read. -/
theorem run_accept_of_ne (other : (reader.peek 0).toList ≠ expected) :
    EStateM.run (accept expected) reader = .ok false reader := by
  change EStateM.run (if (reader.peek 0).toList = expected then _ else _ : Action Bool) reader = _
  rw [if_neg other]
  rfl

/-- Where the expected text is seen, the next character is read, if there is one. -/
theorem run_accept_of_eq (seen : (reader.peek 0).toList = expected) :
    EStateM.run (accept expected) reader = EStateM.run (next >>= fun _ => pure true) reader := by
  change EStateM.run (if (reader.peek 0).toList = expected then _ else _ : Action Bool) reader = _
  rw [if_pos seen]

/-! ## What a request does to a reader -/

/-- The request has consumed a character: it has read one, or it has found the expected text. -/
inductive Request.Consumes : Request → Except Fault Reply → Prop
  | next (c : Char) : Consumes .next (.ok (.read c))
  | accept (expected : Text) : Consumes (.accept expected) (.ok (.truth true))

/-- What a request has consumed: the character that is answered, the expected text, or what
stands at the position if nothing was expected and something is read. -/
def consumedBy (before : Reader) : Request → Except Fault Reply → Text
  | .next, .ok (.read c) => [c]
  | .accept [], .ok (.truth true) => before.at?.toList
  | .accept expected, .ok (.truth true) => expected
  | _, _ => []

/-- What is replied to a request, and the reader with which the reply comes.  To read is to be
given the character at the position and to be past it then; to look is to be told what the text
has at an index of its own. -/
inductive Replies (before : Reader) : Request → Except Fault Reply → Reader → Prop
  | read {c : Char} (here : before.source.HasAt before.position c) :
      Replies before .next (.ok (.read c)) (before.past c)
  | seen {offset : Int} {i : Nat} {c : Char} (indexEq : before.position + offset = i)
      (charEq : before.source[i]? = some c) :
      Replies before (.peek offset) (.ok (.seen (some c))) before
  | unseen {offset : Int} (outside : before.position + offset < 0 ∨
        before.length ≤ before.position + offset) :
      Replies before (.peek offset) (.ok (.seen none)) before
  | found {i : Nat} {c : Char} (positionEq : before.position = i)
      (charEq : before.source[i]? = some c) :
      Replies before (.accept [c]) (.ok (.truth true)) (before.past c)
  /-- Nothing is expected and nothing is seen, but a character counted from the end is read. -/
  | foundNothing {c : Char} (negative : before.position < 0)
      (here : before.source.HasAt before.position c) :
      Replies before (.accept []) (.ok (.truth true)) (before.past c)
  | other {expected : Text} {i : Nat} {c : Char} (positionEq : before.position = i)
      (charEq : before.source[i]? = some c) (differs : expected ≠ [c]) :
      Replies before (.accept expected) (.ok (.truth false)) before
  | missing {expected : Text} (outside : before.position < 0 ∨ before.length ≤ before.position)
      (notNil : expected ≠ []) :
      Replies before (.accept expected) (.ok (.truth false)) before
  | ended (behind : before.length ≤ before.position) :
      Replies before .atEnd (.ok (.truth true)) before
  | notEnded (inFront : before.position < before.length) :
      Replies before .atEnd (.ok (.truth false)) before
  | fault {request : Request} {fault : Fault} (reads : request = .next ∨ request = .accept [])
      (faults : before.Faults fault) : Replies before request (.error fault) before

/-- What holds of the answer to a request, and of the reader with which it comes. -/
structure Answers (before : Reader) (request : Request) (reply : Except Fault Reply)
    (after : Reader) : Prop where
  /-- The reply is the one that the position calls for. -/
  replies : Replies before request reply after
  /-- What is consumed is the one character at the position. -/
  consumes : request.Consumes reply → ∃ c, before.consumedBy request reply = [c] ∧
    before.source.HasAt before.position c ∧ after = before.past c
  /-- Where nothing is consumed the reader stays as it is. -/
  stays : ¬ request.Consumes reply → before.consumedBy request reply = [] ∧ after = before
  /-- Reading fails where nothing stands at the position, and no other request fails. -/
  fails : (∃ fault, reply = .error fault) ↔ (request = .next ∨ request = .accept []) ∧
    (before.length ≤ before.position ∨ before.position < -before.length)
  /-- An expected text is found if it is the character at the position, not counted from the
  end. -/
  accepts : ∀ expected, request = .accept expected → expected ≠ [] →
    (reply = .ok (.truth true) ↔
      ∃ i : Nat, before.position = i ∧ ∃ c, before.source[i]? = some c ∧ expected = [c])

variable {α β : Type} {action : Action α} {after : Reader}

theorem run_map_of_ok {value : α} (f : α → β) (okEq : EStateM.run action reader = .ok value after) :
    reader.run (f <$> action) = (.ok (f value), after) := by
  rw [run, ← bind_pure_comp, EStateM.run_bind, okEq]
  rfl

theorem run_map_of_error {fault : Fault} (f : α → β)
    (errorEq : EStateM.run action reader = .error fault after) :
    reader.run (f <$> action) = (.error fault, after) := by
  rw [run, ← bind_pure_comp, EStateM.run_bind, errorEq]

/-- Whatever a reader is asked for, it replies so. -/
theorem replies_answer (reader : Reader) (request : Request) :
    Replies reader request (reader.answer request).1 (reader.answer request).2 := by
  cases request with
  | peek offset =>
      rw [answer]
      cases seenEq : reader.peek offset with
      | none => exact .unseen (peek_eq_none_iff.mp seenEq)
      | some c =>
          obtain ⟨i, indexEq, charEq⟩ := peek_eq_some_iff.mp seenEq
          exact .seen indexEq charEq
  | atEnd =>
      rw [answer]
      cases isEnd : reader.atEnd with
      | true => exact .ended (of_decide_eq_true isEnd)
      | false => exact .notEnded (Int.not_le.mp (of_decide_eq_false isEnd))
  | next =>
      cases here : reader.at? with
      | none =>
          obtain ⟨fault, nextEq, faults⟩ := exists_run_next_eq_error here
          rw [answer, run_map_of_error _ nextEq]
          exact .fault (.inl rfl) faults
      | some c =>
          rw [answer, run_map_of_ok _ (run_next_of_at? here)]
          exact .read (at?_eq_some_iff.mp here)
  | accept expected =>
      by_cases seen : (reader.peek 0).toList = expected
      · -- What is expected is seen, so the reader goes on to read whatever stands there.
        have acceptEq := run_accept_of_eq seen
        rw [EStateM.run_bind] at acceptEq
        cases here : reader.at? with
        | none =>
            obtain ⟨fault, nextEq, faults⟩ := exists_run_next_eq_error here
            rw [nextEq] at acceptEq
            rw [peek_zero_of_at?_eq_none here] at seen
            rw [answer, run_map_of_error _ acceptEq]
            exact .fault (.inr (congrArg _ seen.symm)) faults
        | some c =>
            rw [run_next_of_at? here] at acceptEq
            rw [answer, run_map_of_ok _ acceptEq]
            have stands := at?_eq_some_iff.mp here
            rcases peek_zero_of_at?_eq_some here with unseen | isSeen
            · rw [unseen] at seen
              cases seen
              have outside := peek_eq_none_iff.mp unseen
              rw [Int.add_zero] at outside
              have negative := outside.resolve_right fun behind => stands.not_outside (.inl behind)
              exact .foundNothing negative stands
            · rw [isSeen] at seen
              cases seen
              obtain ⟨i, positionEq, charEq⟩ := peek_zero_eq_some_iff.mp isSeen
              exact .found positionEq charEq
      · rw [answer, run_map_of_ok _ (run_accept_of_ne seen)]
        cases seenEq : reader.peek 0 with
        | none =>
            have outside := peek_eq_none_iff.mp seenEq
            rw [Int.add_zero] at outside
            rw [seenEq] at seen
            exact .missing outside (Ne.symm seen)
        | some c =>
            obtain ⟨i, positionEq, charEq⟩ := peek_zero_eq_some_iff.mp seenEq
            rw [seenEq] at seen
            exact .other positionEq charEq (Ne.symm seen)

/-- A reply that the position calls for consumes one character or nothing. -/
theorem Replies.answers {request : Request} {reply : Except Fault Reply} {after : Reader}
    (replies : Replies reader request reply after) : Answers reader request reply after where
  replies := replies
  consumes consumes := by
    cases consumes with
    | next c =>
        cases replies with
        | read here => exact ⟨c, rfl, here, rfl⟩
    | accept expected =>
        cases replies with
        | found positionEq charEq => exact ⟨_, rfl, ⟨_, charEq, .inl positionEq⟩, rfl⟩
        | foundNothing negative here =>
            exact ⟨_, congrArg Option.toList (at?_eq_some_iff.mpr here), here, rfl⟩
  stays nothing := by
    cases replies with
    | read here => exact absurd (.next _) nothing
    | found positionEq charEq => exact absurd (.accept _) nothing
    | foundNothing negative here => exact absurd (.accept _) nothing
    | seen | unseen | ended | notEnded => exact ⟨rfl, rfl⟩
    | @other expected | @missing expected => cases expected <;> exact ⟨rfl, rfl⟩
    | fault reads faults => rcases reads with rfl | rfl <;> exact ⟨rfl, rfl⟩
  fails := by
    cases replies with
    | fault reads faults => exact iff_of_true ⟨_, rfl⟩ ⟨reads, faults.outside⟩
    | read here => exact iff_of_false nofun fun fails => here.not_outside fails.2
    | foundNothing negative here => exact iff_of_false nofun fun fails => here.not_outside fails.2
    | other positionEq charEq differs =>
        have here : reader.source.HasAt reader.position _ := ⟨_, charEq, .inl positionEq⟩
        exact iff_of_false nofun fun fails => here.not_outside fails.2
    | missing outside notNil =>
        refine iff_of_false nofun ?_
        rintro ⟨isNext | isAccept, -⟩
        · cases isNext
        · exact notNil (Request.accept.inj isAccept)
    | seen | unseen | found | ended | notEnded =>
        refine iff_of_false nofun ?_
        rintro ⟨isNext | isAccept, -⟩
        · cases isNext
        · cases isAccept
  accepts expected isAccept notNil := by
    cases replies with
    | found positionEq charEq =>
        cases isAccept
        exact iff_of_true rfl ⟨_, positionEq, _, charEq, rfl⟩
    | foundNothing negative here =>
        cases isAccept
        exact absurd rfl notNil
    | @other _ i c positionEq charEq differs =>
        cases isAccept
        refine iff_of_false nofun ?_
        rintro ⟨j, otherEq, d, foundEq, rfl⟩
        have sameIndex : i = j := by omega
        cases sameIndex
        cases charEq.symm.trans foundEq
        exact differs rfl
    | missing outside _ =>
        cases isAccept
        refine iff_of_false nofun ?_
        rintro ⟨i, positionEq, c, charEq, rfl⟩
        have inside := (List.getElem?_eq_some_iff.mp charEq).1
        unfold length at outside
        omega
    | fault reads faults =>
        rcases reads with rfl | rfl
        · cases isAccept
        · cases isAccept
          exact absurd rfl notNil
    | _ => cases isAccept

/-- Whatever a reader is asked for, it answers so. -/
theorem answers_answer (reader : Reader) (request : Request) :
    Answers reader request (reader.answer request).1 (reader.answer request).2 :=
  (replies_answer reader request).answers

/-! ## Requests in a row -/

/-- The reader after the requests. -/
def afterAll (reader : Reader) (requests : List Request) : Reader :=
  requests.foldl (fun before request => (before.answer request).2) reader

/-- What the requests have consumed, one after another. -/
def consumed (reader : Reader) : List Request → Text
  | [] => []
  | request :: rest =>
      let answered := reader.answer request
      reader.consumedBy request answered.1 ++ answered.2.consumed rest

theorem afterAll_concat (reader : Reader) (done : List Request) (request : Request) :
    reader.afterAll (done ++ [request]) = ((reader.afterAll done).answer request).2 := by
  rw [afterAll, List.foldl_append]
  rfl

theorem consumed_concat (reader : Reader) (done : List Request) (request : Request) :
    reader.consumed (done ++ [request]) = reader.consumed done ++
      (reader.afterAll done).consumedBy request ((reader.afterAll done).answer request).1 := by
  induction done generalizing reader with
  | nil => rw [List.nil_append, consumed, consumed, consumed, List.append_nil]; rfl
  | cons first done inductionHypothesis =>
      rw [List.cons_append, consumed, consumed, inductionHypothesis, List.append_assoc]
      rfl

/-- The answer to a request is the one of the reader after the requests before it. -/
theorem getElem?_answers (reader : Reader) (done rest : List Request) (request : Request) :
    (reader.answers (done ++ request :: rest))[done.length]? =
      some ((reader.afterAll done).answer request) := by
  induction done generalizing reader with
  | nil => rfl
  | cons first done inductionHypothesis => exact inductionHypothesis (reader.answer first).2

/-- The reader behind the characters that it has read. -/
def pastAll (reader : Reader) (text : Text) : Reader :=
  let place := Place.past ⟨reader.position, reader.line, reader.column⟩ text
  { reader with position := place.offset, line := place.line, column := place.column }

theorem pastAll_concat (reader : Reader) (text : Text) (c : Char) :
    reader.pastAll (text ++ [c]) = (reader.pastAll text).past c := by
  unfold pastAll past
  rw [Place.past_concat]

/-- Requests move a reader past what they consume. -/
theorem afterAll_eq_pastAll (start : Reader) (requests : List Request) :
    start.afterAll requests = start.pastAll (start.consumed requests) := by
  induction requests using List.reverseRecOn with
  | nil => rfl
  | append_singleton done request inductionHypothesis =>
      have answers := answers_answer (start.afterAll done) request
      rw [afterAll_concat, consumed_concat]
      by_cases consumes : request.Consumes ((start.afterAll done).answer request).1
      · obtain ⟨c, takes, -, afterEq⟩ := answers.consumes consumes
        rw [takes, afterEq, pastAll_concat, inductionHypothesis]
      · obtain ⟨takes, afterEq⟩ := answers.stays consumes
        rw [takes, afterEq, List.append_nil, inductionHypothesis]

/-- How a reader stands that has consumed the given text since its start. -/
structure Accounts (start : Reader) (text : Text) (now : Reader) : Prop where
  /-- The source is the same one. -/
  source : now.source = start.source
  /-- The position has moved by one for every character. -/
  position : now.position = start.position + text.length
  /-- The characters stand in the source one behind another, from the start on. -/
  stands : start.source.StandsFrom start.position text
  /-- Where that does not count from the end, they are a stretch of the source. -/
  stretch : 0 ≤ start.position → text =
    (start.source.drop start.position.toNat).take (now.position - start.position).toNat
  /-- The line has moved by one for every line feed. -/
  line : now.line = start.line + text.count '\n'
  /-- The column counts behind the last line feed, or goes on from the start. -/
  column : now.column =
    if '\n' ∈ text then (1 + text.lastLine.length : Int) else start.column + text.length

theorem Accounts.of_stands {start : Reader} {text : Text}
    (stands : start.source.StandsFrom start.position text) :
    Accounts start text (start.pastAll text) where
  source := rfl
  position := by rw [pastAll, Place.past_eq]
  stands := stands
  stretch notNegative := by
    have lengthEq : ((start.pastAll text).position - start.position).toNat = text.length := by
      rw [pastAll, Place.past_eq]
      dsimp only
      omega
    rw [lengthEq]
    exact stands.eq_take_drop notNegative
  line := by rw [pastAll, Place.past_eq]
  column := by rw [pastAll, Place.past_eq]

/-- Whatever a reader has been asked for, it accounts for what it has consumed. -/
theorem accounts_afterAll (start : Reader) (requests : List Request) :
    Accounts start (start.consumed requests) (start.afterAll requests) := by
  induction requests using List.reverseRecOn with
  | nil => exact .of_stands nofun
  | append_singleton done request inductionHypothesis =>
      rw [afterAll_eq_pastAll]
      apply Accounts.of_stands
      rw [consumed_concat]
      have answers := answers_answer (start.afterAll done) request
      by_cases consumes : request.Consumes ((start.afterAll done).answer request).1
      · obtain ⟨c, takes, stands, -⟩ := answers.consumes consumes
        rw [inductionHypothesis.source, inductionHypothesis.position] at stands
        rw [takes]
        exact inductionHypothesis.stands.concat stands
      · rw [(answers.stays consumes).1, List.append_nil]
        exact inductionHypothesis.stands

/-- A reader that starts anywhere and is asked for anything answers each request as it should,
and accounts for all that the requests have consumed. -/
theorem accounts_answers (start : Reader) (done rest : List Request) (request : Request) :
    ∃ reply after,
      (start.answers (done ++ request :: rest))[done.length]? = some (reply, after) ∧
        Answers (start.afterAll done) request reply after ∧
        after = start.afterAll (done ++ [request]) ∧
        Accounts start (start.consumed done) (start.afterAll done) ∧
        start.consumed (done ++ [request]) =
          start.consumed done ++ (start.afterAll done).consumedBy request reply ∧
        Accounts start (start.consumed (done ++ [request])) after := by
  have accounts := accounts_afterAll start (done ++ [request])
  rw [afterAll_concat] at accounts
  exact ⟨_, _, getElem?_answers start done rest request, answers_answer _ request,
    (afterAll_concat start done request).symm, accounts_afterAll start done,
    consumed_concat start done request, accounts⟩

example : (⟨"ab".toList, -1, 1, 1⟩ : Reader).consumed
    [.next, .accept ['a'], .accept [], .next, .accept [], .next] = "bab".toList := by
  decide

end Reader

end Lunette
