import Lunette.Grammar.Nesting
import Lunette.Proofs.Phrase.Shape

/-!
# Rules recover what has been written

A rule recovers a value from tokens when, standing in front of them, it yields the value and
stops right behind them.  What follows the tokens matters, because a rule looks at the token
behind a phrase to see that the phrase has ended.  Recovery is put together from the steps
of a rule, as the rule is.
-/

namespace Lunette

/-- The cursor in front of the given tokens. -/
def Cursor.before (cursor : Cursor) (tokens : List Token) : Cursor :=
  { cursor with rest := tokens ++ cursor.rest }

namespace Cursor

@[simp]
theorem before_nil (cursor : Cursor) : cursor.before [] = cursor :=
  rfl

@[simp]
theorem before_append (cursor : Cursor) (first second : List Token) :
    cursor.before (first ++ second) = (cursor.before second).before first := by
  simp [before]

@[simp]
theorem kind_before_cons (cursor : Cursor) (token : Token) (tokens : List Token) :
    (cursor.before (token :: tokens)).kind = token.kind :=
  rfl

@[simp]
theorem depth_before (cursor : Cursor) (tokens : List Token) :
    (cursor.before tokens).depth = cursor.depth :=
  rfl

@[simp]
theorem nextKind_before_cons (cursor : Cursor) (token : Token) (tokens : List Token) :
    (cursor.before (token :: tokens)).nextKind = (cursor.before tokens).kind := by
  simp only [before, nextKind, kind, List.cons_append]
  cases tokens ++ cursor.rest <;> rfl

/-- Tokens that fill a row of slots begin with a token of the first slot's kind. -/
theorem kind_before_of_filled {cursor : Cursor} {slot : Slot} {slots : List Slot}
    {tokens : List Token} (filled : Slot.Filled (slot :: slots) tokens) :
    (cursor.before tokens).kind = slot.kind := by
  rcases Slot.filled_cons_iff.mp filled with ⟨token, rest, takes, -, rfl⟩
  exact takes.kind_eq

end Cursor

namespace Rule

variable {α β : Type}

/-- The rule reads exactly the tokens, up to the cursor behind them, and yields the value. -/
def Recovers (rule : Rule α) (tokens : List Token) (value : α) (after : Cursor) : Prop :=
  rule.run (after.before tokens) = .ok value after

namespace Recovers

theorem pure (value : α) (after : Cursor) : Recovers (pure value) [] value after :=
  rfl

theorem bind {rule : Rule α} {next : α → Rule β} {first second : List Token} {middle : α}
    {value : β} {after : Cursor} (front : Recovers rule first middle (after.before second))
    (back : Recovers (next middle) second value after) :
    Recovers (rule >>= next) (first ++ second) value after := by
  unfold Recovers at front back ⊢
  rw [Cursor.before_append, run_bind, front]
  exact back

/-- The last step of a rule reads nothing. -/
theorem bind_last {rule : Rule α} {next : α → Rule β} {tokens : List Token} {middle : α}
    {value : β} {after : Cursor} (front : Recovers rule tokens middle after)
    (back : Recovers (next middle) [] value after) :
    Recovers (rule >>= next) tokens value after := by
  have whole := bind front back
  rwa [List.append_nil] at whole

theorem map {rule : Rule α} {tokens : List Token} {value : α} {after : Cursor}
    (function : α → β) (recovers : Recovers rule tokens value after) :
    Recovers (function <$> rule) tokens (function value) after :=
  recovers.bind_last (pure _ _)

/-- A token that is wanted is read. -/
theorem accept_some_bind {wanted : Kind → Bool} {next : Option Token → Rule β}
    {token : Token} {tokens : List Token} {value : β} {after : Cursor}
    (isWanted : wanted token.kind = true)
    (back : Recovers (next (some token)) tokens value after) :
    Recovers (accept wanted >>= next) (token :: tokens) value after := by
  unfold Recovers at back ⊢
  rw [run_bind, run_accept, Cursor.kind_before_cons, if_pos isWanted]
  exact back

/-- A token of the one kind that is wanted is read. -/
theorem accept_kind_bind {kind : Kind} {next : Option Token → Rule β} {token : Token}
    {tokens : List Token} {value : β} {after : Cursor} (isKind : token.kind = kind)
    (back : Recovers (next (some token)) tokens value after) :
    Recovers (accept (· = kind) >>= next) (token :: tokens) value after :=
  accept_some_bind (decide_eq_true isKind) back

/-- A token that is not wanted is left unread. -/
theorem accept_none_bind {wanted : Kind → Bool} {next : Option Token → Rule β}
    {tokens : List Token} {value : β} {after : Cursor}
    (notWanted : wanted (after.before tokens).kind = false)
    (back : Recovers (next none) tokens value after) :
    Recovers (accept wanted >>= next) tokens value after := by
  unfold Recovers at back ⊢
  rw [run_bind, run_accept, notWanted]
  exact back

theorem expect {kind : Kind} {token : Token} {after : Cursor} (purpose : Purpose)
    (isKind : token.kind = kind) : Recovers (Rule.expect kind purpose) [token] token after := by
  unfold Recovers
  rw [run_expect, Cursor.kind_before_cons, if_pos isKind]
  rfl

/-- A token that is needed is read. -/
theorem expect_bind {kind : Kind} {purpose : Purpose} {next : Token → Rule β}
    {token : Token} {tokens : List Token} {value : β} {after : Cursor}
    (isKind : token.kind = kind) (back : Recovers (next token) tokens value after) :
    Recovers (Rule.expect kind purpose >>= next) (token :: tokens) value after :=
  bind (expect purpose isKind) back

end Recovers

end Rule

end Lunette
