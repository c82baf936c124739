import Lunette.Grammar.Nesting
import Lunette.Proofs.Phrase.Spelling

/-!
# Rules account for the tokens they read

When a rule of the grammar succeeds, the tokens between the cursor before and the cursor
behind are a spelling of the phrase that the rule yields: the phrase is shaped, and the
tokens fill its written form.  Nothing is said of a rule that fails.

The account is carried through a rule step by step: what is still owed after a step is the
account of the whole with the tokens of that step put in front.
-/

namespace Lunette

namespace Rule

variable {α β : Type}

/-- What a successful rule has read stands in the given relation to the value. -/
structure Reads (rule : Rule α) (Account : α → List Token → Prop) : Prop where
  account {cursor : Cursor} {value : α} {after : Cursor}
    (okEq : rule.run cursor = .ok value after) :
    ∃ tokens, cursor.rest = tokens ++ after.rest ∧ Account value tokens

namespace Reads

theorem pure {Account : α → List Token → Prop} {value : α} (owed : Account value []) :
    Reads (pure value) Account := by
  constructor
  intro cursor value after okEq
  rw [run_pure] at okEq
  cases okEq
  exact ⟨[], rfl, owed⟩

theorem bind {rule : Rule α} {next : α → Rule β} {First : α → List Token → Prop}
    {Account : β → List Token → Prop} (first : Reads rule First)
    (second : ∀ value tokens, First value tokens →
      Reads (next value) fun result more => Account result (tokens ++ more)) :
    Reads (rule >>= next) Account := by
  constructor
  intro cursor result after okEq
  rw [run_bind] at okEq
  split at okEq
  · rename_i value between betweenEq
    rcases first.account betweenEq with ⟨tokens, cursorEq, firstHolds⟩
    rcases (second value tokens firstHolds).account okEq with ⟨more, betweenRest, holds⟩
    exact ⟨tokens ++ more, by rw [cursorEq, betweenRest, List.append_assoc], holds⟩
  · cases okEq

theorem map {rule : Rule α} {function : α → β} {First : α → List Token → Prop}
    {Account : β → List Token → Prop} (first : Reads rule First)
    (carry : ∀ value tokens, First value tokens → Account (function value) tokens) :
    Reads (function <$> rule) Account := by
  apply first.bind
  intro value tokens holds
  apply pure
  rw [List.append_nil]
  exact carry value tokens holds

/-- After an optional token either the token has been read or nothing has. -/
theorem accept_bind {wanted : Kind → Bool} {next : Option Token → Rule β}
    {Account : β → List Token → Prop} (notEnd : wanted .endOfInput = false)
    (present : ∀ token, wanted token.kind = true →
      Reads (next (some token)) fun result more => Account result (token :: more))
    (absent : Reads (next none) Account) : Reads (accept wanted >>= next) Account := by
  constructor
  intro cursor result after okEq
  rw [run_bind, run_accept] at okEq
  rcases cursor with ⟨rest, marker, depth⟩
  cases rest with
  | nil =>
      simp only [Cursor.kind, notEnd, Bool.false_eq_true, if_false] at okEq
      exact absent.account okEq
  | cons token rest =>
      by_cases isWanted : wanted token.kind = true
      · simp only [Cursor.kind, isWanted, if_true] at okEq
        rcases (present token isWanted).account okEq with ⟨more, restEq, holds⟩
        exact ⟨token :: more, congrArg (token :: ·) restEq, holds⟩
      · simp only [Cursor.kind, isWanted, Bool.false_eq_true, if_false] at okEq
        exact absent.account okEq

/-- After an optional token of one kind either such a token has been read or nothing has. -/
theorem accept_kind_bind {kind : Kind} {next : Option Token → Rule β}
    {Account : β → List Token → Prop} (notEnd : kind ≠ .endOfInput)
    (present : ∀ token, token.kind = kind →
      Reads (next (some token)) fun result more => Account result (token :: more))
    (absent : Reads (next none) Account) : Reads (accept (· = kind) >>= next) Account := by
  apply accept_bind (by simpa using notEnd.symm)
  · intro token isKind
    exact present token (of_decide_eq_true isKind)
  · exact absent

/-- After a needed token that token has been read. -/
theorem expect_bind {kind : Kind} {purpose : Purpose} {next : Token → Rule β}
    {Account : β → List Token → Prop} (notEnd : kind ≠ .endOfInput)
    (second : ∀ token, token.kind = kind →
      Reads (next token) fun result more => Account result (token :: more)) :
    Reads (expect kind purpose >>= next) Account := by
  constructor
  intro cursor result after okEq
  rw [run_bind, run_expect] at okEq
  rcases cursor with ⟨rest, marker, depth⟩
  cases rest with
  | nil => simp [Cursor.kind, notEnd.symm] at okEq
  | cons token rest =>
      by_cases isKind : token.kind = kind
      · simp only [Cursor.kind, isKind, if_true] at okEq
        rcases (second token isKind).account okEq with ⟨more, restEq, holds⟩
        exact ⟨token :: more, congrArg (token :: ·) restEq, holds⟩
      · simp [Cursor.kind, isKind] at okEq

/-- A needed token is what has been read. -/
theorem expect {kind : Kind} {purpose : Purpose} (notEnd : kind ≠ .endOfInput) :
    Reads (expect kind purpose) fun token tokens => token.kind = kind ∧ tokens = [token] := by
  rw [← bind_pure (Rule.expect kind purpose)]
  apply expect_bind notEnd
  intro token isKind
  exact pure ⟨isKind, rfl⟩

theorem unaryOperators :
    Reads unaryOperators fun ops tokens =>
      tokens = ops ∧ ∀ op ∈ ops, op.kind.isUnaryOperator = true := by
  constructor
  intro cursor ops after okEq
  rw [run_unaryOperators] at okEq
  cases okEq
  have allUnary : ∀ op ∈ cursor.rest.takeWhile (·.kind.isUnaryOperator),
      op.kind.isUnaryOperator = true := by
    intro op member
    exact List.all_eq_true.mp List.all_takeWhile op member
  exact ⟨_, List.takeWhile_append_dropWhile.symm, rfl, allUnary⟩

/-- A rule that is bounded by the tokens left accounts for what it reads if it does under
every bound. -/
theorem bounded {rule : Nat → Rule α} {Account : α → List Token → Prop}
    (reads : ∀ bound, Reads (rule bound) Account) :
    Reads (do rule (← get).rest.length) Account := by
  constructor
  intro cursor value after okEq
  exact (reads cursor.rest.length).account okEq

end Reads

end Rule

end Lunette
