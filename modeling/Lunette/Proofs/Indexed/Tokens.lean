import Lunette.Indexed.Tokens
import Lunette.Proofs.Reading.Program

/-!
# Tokens by index are the tokens at cursors

A cursor into a closed token list has an index, and at that index the list has the token that
the cursor sees.  Steps that do what a rule does from every such cursor look at no index that the
list does not have.
-/

namespace Lunette

namespace Indexed

open Ast Rule

variable {tokens : ClosedTokens} {cursor : Cursor} {α β : Type}

/-! ## Cursors and positions -/

/-- The cursor stands in the token list. -/
structure Stands (tokens : ClosedTokens) (cursor : Cursor) : Prop where
  suffix : cursor.rest <:+ tokens.body
  marker : cursor.marker = tokens.marker

/-- The position of a cursor. -/
def positionOf (tokens : ClosedTokens) (cursor : Cursor) : Position :=
  ⟨tokens.body.length - cursor.rest.length, cursor.depth⟩

namespace Stands

/-- From the index of a cursor on, the list has what the cursor has left and the marker. -/
theorem getElem?_index (stands : Stands tokens cursor) (ahead : Nat) :
    tokens.toList[(positionOf tokens cursor).index + ahead]? =
      (cursor.rest ++ [tokens.marker])[ahead]? := by
  obtain ⟨front, bodyEq⟩ := stands.suffix
  rw [positionOf, ClosedTokens.toList, ← bodyEq, List.length_append, Nat.add_sub_cancel,
    List.append_assoc, List.getElem?_append_right (Nat.le_add_right _ _), Nat.add_sub_cancel_left]

/-- At the index of a cursor is the token that the cursor sees. -/
theorem getElem?_current (stands : Stands tokens cursor) :
    tokens.toList[(positionOf tokens cursor).index]? = some cursor.current := by
  have here := stands.getElem?_index 0
  rw [Nat.add_zero] at here
  rw [here, Cursor.current, stands.marker]
  cases cursor.rest <;> rfl

theorem kind_current (stands : Stands tokens cursor) : cursor.current.kind = cursor.kind := by
  unfold Cursor.current Cursor.kind
  cases cursor.rest with
  | nil =>
      rw [List.headD_nil, stands.marker]
      exact tokens.marker_kind
  | cons token rest => rfl

theorem index_add_length (stands : Stands tokens cursor) :
    (positionOf tokens cursor).index + cursor.rest.length = tokens.body.length :=
  Nat.sub_add_cancel stands.suffix.length_le

theorem index_lt {after : Cursor} (stands : Stands tokens cursor)
    (less : after.rest.length < cursor.rest.length) :
    (positionOf tokens cursor).index < (positionOf tokens after).index :=
  Nat.sub_lt_sub_left (Nat.lt_of_lt_of_le less stands.suffix.length_le) less

theorem index_tail (stands : Stands tokens cursor) (kindNe : cursor.kind ≠ .endOfInput) :
    (positionOf tokens { cursor with rest := cursor.rest.tail }).index =
      (positionOf tokens cursor).index + 1 := by
  have notMore := stands.suffix.length_le
  have fewer := length_tail_lt kindNe
  simp only [positionOf, List.length_tail] at fewer ⊢
  omega

end Stands

theorem index_le_length (tokens : ClosedTokens) (cursor : Cursor) :
    (positionOf tokens cursor).index ≤ tokens.body.length :=
  Nat.sub_le _ _

theorem index_le_of_forward (tokens : ClosedTokens) {rule : Rule α} {cursor after : Cursor}
    {value : α} (forward : Forward rule) (okEq : rule.run cursor = .ok value after) :
    (positionOf tokens cursor).index ≤ (positionOf tokens after).index :=
  Nat.sub_le_sub_left (forward.length_le okEq) _

/-- The cursor at a position. -/
def cursorAt (tokens : ClosedTokens) (position : Position) : Cursor :=
  ⟨tokens.body.drop position.index, tokens.marker, position.depth⟩

theorem stands_cursorAt (tokens : ClosedTokens) (position : Position) :
    Stands tokens (cursorAt tokens position) :=
  ⟨List.drop_suffix _ _, rfl⟩

theorem positionOf_cursorAt {position : Position}
    (inRange : position.index ≤ tokens.body.length) :
    positionOf tokens (cursorAt tokens position) = position := by
  have indexEq :
      tokens.body.length - (tokens.body.drop position.index).length = position.index := by
    rw [List.length_drop]
    exact Nat.sub_sub_self inRange
  rw [positionOf, cursorAt, indexEq]

theorem cursorAt_positionOf (stands : Stands tokens cursor) :
    cursorAt tokens (positionOf tokens cursor) = cursor := by
  rw [cursorAt, positionOf, ← List.suffix_iff_eq_drop.mp stands.suffix, ← stands.marker]

/-! ## Single tokens -/

namespace Parsing

theorem run_tokenAt {list : List Token} {index : Nat} {token : Token}
    (hereEq : list[index]? = some token) (position : Position) :
    (tokenAt list index).run position = some (.ok token, position) := by
  rw [tokenAt, hereEq]
  rfl

theorem run_current (stands : Stands tokens cursor) :
    (current tokens.toList).run (positionOf tokens cursor) =
      some (.ok cursor.current, positionOf tokens cursor) := by
  rw [current, Steps.run_bind_of_ok (Steps.run_get _)]
  exact run_tokenAt stands.getElem?_current _

theorem run_check (stands : Stands tokens cursor) (wanted : Kind → Bool) :
    (check tokens.toList wanted).run (positionOf tokens cursor) =
      some (.ok (wanted cursor.kind), positionOf tokens cursor) := by
  rw [check, Steps.run_bind_of_ok (run_current stands), stands.kind_current]
  rfl

/-- The token behind the next one is there, and is the one whose kind the cursor sees. -/
theorem run_peek (stands : Stands tokens cursor) :
    ∃ token, token.kind = cursor.nextKind ∧
      (peek tokens.toList 1).run (positionOf tokens cursor) =
        some (.ok token, positionOf tokens cursor) := by
  have whole := stands.index_add_length
  have sizeEq : tokens.toList.length = tokens.body.length + 1 := tokens.length_toList
  -- The marker is the last token, so no index behind it is looked up.
  have indexEq : min (((positionOf tokens cursor).index : Int) + 1) (tokens.toList.length - 1) =
      ((positionOf tokens cursor).index + min 1 cursor.rest.length : Nat) := by
    omega
  have lookEq : (peek tokens.toList 1).run (positionOf tokens cursor) =
      (tokenAt tokens.toList ((positionOf tokens cursor).index + min 1 cursor.rest.length)).run
        (positionOf tokens cursor) := by
    rw [peek, Steps.run_bind_of_ok (Steps.run_get _)]
    dsimp only
    rw [indexEq, if_neg (by omega), if_neg (by omega), Int.toNat_natCast]
  have thereEq := stands.getElem?_index (min 1 cursor.rest.length)
  rw [lookEq]
  unfold Cursor.nextKind
  rcases restEq : cursor.rest with _ | ⟨token, _ | ⟨next, rest⟩⟩
  · rw [restEq] at thereEq
    exact ⟨tokens.marker, tokens.marker_kind, run_tokenAt thereEq _⟩
  · rw [restEq] at thereEq
    exact ⟨tokens.marker, tokens.marker_kind, run_tokenAt thereEq _⟩
  · have oneEq : min 1 (rest.length + 1 + 1) = 1 := by omega
    rw [restEq, List.length_cons, List.length_cons, oneEq] at thereEq
    exact ⟨next, rfl, run_tokenAt thereEq _⟩

theorem run_advance (stands : Stands tokens cursor) :
    (advance tokens.toList).run (positionOf tokens cursor) =
      some (.ok cursor.current,
        positionOf tokens { cursor with rest := cursor.rest.tail }) := by
  rw [advance, Steps.run_bind_of_ok (run_current stands), stands.kind_current]
  by_cases isEnd : cursor.kind = .endOfInput
  · have tailEq : cursor.rest.tail = cursor.rest := by
      rw [ClosedTokens.eq_nil_of_kind_eq stands.suffix isEnd, List.tail_nil]
    rw [if_neg (not_not_intro isEnd), tailEq]
    rfl
  · have positionEq : positionOf tokens { cursor with rest := cursor.rest.tail } =
        ⟨(positionOf tokens cursor).index + 1, cursor.depth⟩ := by
      rw [← stands.index_tail isEnd]
      rfl
    rw [if_pos isEnd, positionEq]
    rfl

theorem run_openBlock (position : Position) :
    openBlock.run position = some (.ok (), { position with depth := position.depth + 1 }) :=
  rfl

theorem run_closeBlock (position : Position) :
    closeBlock.run position = some (.ok (), { position with depth := position.depth - 1 }) :=
  rfl

theorem run_atAssign (stands : Stands tokens cursor) :
    (atAssign tokens.toList).run (positionOf tokens cursor) =
      some (.ok (decide (cursor.nextKind = .assign)), positionOf tokens cursor) := by
  obtain ⟨token, kindEq, peekEq⟩ := run_peek stands
  rw [atAssign, Steps.run_bind_of_ok peekEq, kindEq]
  rfl

/-- A call comes next where a name is followed by an opening parenthesis. -/
theorem run_atCall (stands : Stands tokens cursor) :
    (atCall tokens.toList).run (positionOf tokens cursor) =
      some (.ok (decide (cursor.kind = .identifier ∧ cursor.nextKind = .openParen)),
        positionOf tokens cursor) := by
  rw [atCall, Steps.run_bind_of_ok (run_check stands _)]
  by_cases isName : cursor.kind = .identifier
  · obtain ⟨token, kindEq, peekEq⟩ := run_peek stands
    rw [if_pos (decide_eq_true isName), Steps.run_bind_of_ok peekEq, kindEq]
    simp [isName, Steps.run_pure]
  · rw [if_neg (by simpa using isName)]
    simp [isName, Steps.run_pure]

end Parsing

/-! ## Mirrored rules -/

/-- The answer of steps where a rule has the given result. -/
def answerOf (tokens : ClosedTokens) :
    EStateM.Result ParseError Cursor α → Except Fault α × Position
  | .ok value after => (.ok value, positionOf tokens after)
  | .error error after => (.error (.parse error), positionOf tokens after)

/-- Steps do what a rule does, from every cursor in the tokens. -/
structure Mirrors (tokens : ClosedTokens) (rule : Rule α) (steps : Parsing α) : Prop where
  forward : Forward rule
  run {cursor : Cursor} (stands : Stands tokens cursor) :
    steps.run (positionOf tokens cursor) = some (answerOf tokens (rule.run cursor))

theorem Stands.after {rule : Rule α} {after : Cursor} {value : α} (stands : Stands tokens cursor)
    (forward : Forward rule) (okEq : rule.run cursor = .ok value after) : Stands tokens after where
  suffix := (forward.ok okEq).1.trans stands.suffix
  marker := (forward.ok okEq).2.1.trans stands.marker

namespace Mirrors

theorem pure (value : α) : Mirrors tokens (pure value) (pure value) where
  forward := .pure value
  run _ := rfl

theorem bind {rule : Rule α} {steps : Parsing α} {next : α → Rule β} {onward : α → Parsing β}
    (first : Mirrors tokens rule steps)
    (second : ∀ value, Mirrors tokens (next value) (onward value)) :
    Mirrors tokens (rule >>= next) (steps >>= onward) where
  forward := .bind first.forward fun value => (second value).forward
  run {cursor} stands := by
    rw [Steps.run_bind, first.run stands, Rule.run_bind]
    cases ruleEq : rule.run cursor with
    | ok value after => exact (second value).run (stands.after first.forward ruleEq)
    | error error after => rfl

theorem map {rule : Rule α} {steps : Parsing α} (function : α → β)
    (mirrors : Mirrors tokens rule steps) :
    Mirrors tokens (function <$> rule) (steps >>= fun value => Pure.pure (function value)) :=
  .bind mirrors fun _ => .pure _

theorem advance : Mirrors tokens advance (Parsing.advance tokens.toList) where
  forward := .advance
  run stands := Parsing.run_advance stands

theorem accept (wanted : Kind → Bool) :
    Mirrors tokens (accept wanted) (Parsing.accept tokens.toList wanted) where
  forward := .accept wanted
  run {cursor} stands := by
    rw [Parsing.accept, Steps.run_bind_of_ok (Parsing.run_check stands wanted), run_accept]
    cases wanted cursor.kind with
    | true =>
        rw [if_pos rfl, if_pos rfl, Steps.run_bind_of_ok (Parsing.run_advance stands)]
        rfl
    | false => rfl

theorem expect (kind : Kind) (purpose : Purpose) :
    Mirrors tokens (expect kind purpose) (Parsing.expect tokens.toList kind purpose) where
  forward := .expect kind purpose
  run {cursor} stands := by
    rw [Parsing.expect, Steps.run_bind_of_ok (Parsing.run_check stands _), run_expect]
    by_cases isKind : cursor.kind = kind
    · rw [if_pos (decide_eq_true isKind), if_pos isKind, Parsing.run_advance stands]
      rfl
    · rw [if_neg (by simpa using isKind), if_neg isKind,
        Steps.run_bind_of_ok (Parsing.run_current stands)]
      rfl

theorem conditionalEnd :
    Mirrors tokens Rule.conditionalEnd (Parsing.conditionalEnd tokens.toList) :=
  .bind (.expect _ _) fun _ => .bind (.expect _ _) fun _ => .pure _

/-- A block can end where the rule says so. -/
theorem run_blockEnd (stands : Stands tokens cursor) (values : Block) :
    (Parsing.blockEnd tokens.toList values).run (positionOf tokens cursor) =
      some (answerOf tokens (Rule.blockEnd values cursor)) := by
  rw [Parsing.blockEnd, Steps.run_bind_of_ok (Steps.run_get _), Rule.blockEnd]
  by_cases outermost : cursor.depth = 0
  · rw [if_pos (show (positionOf tokens cursor).depth = 0 from outermost),
      Steps.run_bind_of_ok (Parsing.run_check stands _)]
    by_cases isEnd : cursor.kind = .endOfInput
    · rw [if_neg (by simpa using isEnd), if_neg fun both => both.2 isEnd]
      rfl
    · rw [if_pos (by simpa using isEnd), if_pos ⟨outermost, isEnd⟩,
        Steps.run_bind_of_ok (Parsing.run_current stands)]
      rfl
  · rw [if_neg (show ¬ (positionOf tokens cursor).depth = 0 from outermost),
      if_neg fun both => outermost both.1]
    rfl

end Mirrors

end Indexed

end Lunette
