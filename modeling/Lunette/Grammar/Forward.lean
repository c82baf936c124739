import Lunette.Grammar.Statement

/-!
# Rules move forward

A rule of the grammar leaves a suffix of the tokens it starts from, does not touch the end
marker, and closes every block that it opens unless it fails inside one.  A rule for a phrase
that is not empty reads at least one token.  Both facts are proved from the parts of a rule,
so each rule needs one line for each step it takes.
-/

namespace Lunette.Rule

open Ast

variable {α β : Type}

/-! ## What single steps do -/

theorem run_bind (rule : Rule α) (next : α → Rule β) (cursor : Cursor) :
    (rule >>= next).run cursor =
      match rule.run cursor with
      | .ok value after => (next value).run after
      | .error error after => .error error after := by
  change EStateM.bind rule next cursor = _
  unfold EStateM.bind EStateM.run
  split <;> rename_i runEq <;> simp [runEq]

theorem run_pure (value : α) (cursor : Cursor) :
    (pure value : Rule α).run cursor = .ok value cursor :=
  rfl

theorem run_accept (wanted : Kind → Bool) (cursor : Cursor) :
    (accept wanted).run cursor =
      if wanted cursor.kind then
        .ok (some cursor.current) { cursor with rest := cursor.rest.tail }
      else .ok none cursor := by
  change (if wanted cursor.kind = true then _ else _ : Rule _).run cursor = _
  split <;> rfl

theorem run_expect (kind : Kind) (purpose : Purpose) (cursor : Cursor) :
    (expect kind purpose).run cursor =
      if cursor.kind = kind then
        .ok cursor.current { cursor with rest := cursor.rest.tail }
      else .error (.expectedToken kind purpose cursor.current) cursor := by
  change (if cursor.kind = kind then _ else _ : Rule _).run cursor = _
  split <;> rfl

theorem run_unaryOperators (cursor : Cursor) :
    unaryOperators.run cursor =
      .ok (cursor.rest.takeWhile (·.kind.isUnaryOperator))
        { cursor with rest := cursor.rest.dropWhile (·.kind.isUnaryOperator) } :=
  rfl

/-- A block is read with one more block open; the end of the outermost one is checked. -/
theorem run_blockOf (stats : Rule Block) (cursor : Cursor) :
    (blockOf stats).run cursor =
      match stats.run { cursor with depth := cursor.depth + 1 } with
      | .ok block after =>
          let after := { after with depth := after.depth - 1 }
          if after.depth = 0 ∧ after.kind ≠ .endOfInput then
            .error (.unexpectedTopLevel after.current) after
          else
            .ok block after
      | .error error after => .error error after := by
  unfold blockOf
  rw [run_bind]
  change (stats >>= _).run { cursor with depth := cursor.depth + 1 } = _
  rw [run_bind]
  split
  · rename_i block after okEq
    simp only [okEq]
    change (if after.depth - 1 = 0 ∧ _ then _ else _ : Rule Block).run _ = _
    split <;> rfl
  · rename_i error after errorEq
    simp only [errorEq]

/-- Where the statements of a block have been read, the cursor behind them tells whether the
block can end there. -/
def blockEnd (values : Block) (after : Cursor) : EStateM.Result ParseError Cursor Block :=
  if after.depth = 0 ∧ after.kind ≠ .endOfInput then
    .error (.unexpectedTopLevel after.current) after
  else
    .ok values after

theorem run_blockOf_eq_blockEnd (stats : Rule Block) (cursor : Cursor) :
    (blockOf stats).run cursor =
      match stats.run { cursor with depth := cursor.depth + 1 } with
      | .ok values after => blockEnd values { after with depth := after.depth - 1 }
      | .error error after => .error error after :=
  run_blockOf stats cursor

/-! ## Moving forward -/

/-- A rule leaves a suffix of the tokens and the same marker.  When it succeeds as many blocks
are open as before, and when it fails no fewer. -/
structure Forward (rule : Rule α) : Prop where
  ok {cursor : Cursor} {value : α} {after : Cursor}
    (okEq : rule.run cursor = .ok value after) :
    after.rest <:+ cursor.rest ∧ after.marker = cursor.marker ∧ after.depth = cursor.depth
  error {cursor : Cursor} {error : ParseError} {after : Cursor}
    (errorEq : rule.run cursor = .error error after) :
    after.rest <:+ cursor.rest ∧ after.marker = cursor.marker ∧ cursor.depth ≤ after.depth

namespace Forward

theorem length_le {rule : Rule α} (forward : Forward rule) {cursor after : Cursor} {value : α}
    (okEq : rule.run cursor = .ok value after) : after.rest.length ≤ cursor.rest.length :=
  (forward.ok okEq).1.length_le

theorem pure (value : α) : Forward (pure value : Rule α) where
  ok okEq := by
    rw [run_pure] at okEq
    cases okEq
    exact ⟨List.suffix_refl _, rfl, rfl⟩
  error errorEq := by
    rw [run_pure] at errorEq
    cases errorEq

theorem bind {rule : Rule α} {next : α → Rule β} (first : Forward rule)
    (second : ∀ value, Forward (next value)) : Forward (rule >>= next) where
  ok okEq := by
    rw [run_bind] at okEq
    split at okEq
    · rename_i middle between betweenEq
      have before := first.ok betweenEq
      have behind := (second middle).ok okEq
      exact ⟨behind.1.trans before.1, behind.2.1.trans before.2.1,
        behind.2.2.trans before.2.2⟩
    · cases okEq
  error errorEq := by
    rw [run_bind] at errorEq
    split at errorEq
    · rename_i middle between betweenEq
      have before := first.ok betweenEq
      have behind := (second middle).error errorEq
      exact ⟨behind.1.trans before.1, behind.2.1.trans before.2.1, before.2.2 ▸ behind.2.2⟩
    · rename_i betweenEq
      cases errorEq
      exact first.error betweenEq

theorem map {rule : Rule α} (function : α → β) (forward : Forward rule) :
    Forward (function <$> rule) :=
  .bind forward fun _ => .pure _

theorem get : Forward (get : Rule Cursor) where
  ok okEq := by
    change EStateM.Result.ok _ _ = _ at okEq
    cases okEq
    exact ⟨List.suffix_refl _, rfl, rfl⟩
  error errorEq := by
    change EStateM.Result.ok _ _ = _ at errorEq
    cases errorEq

theorem advance : Forward advance where
  ok okEq := by
    change EStateM.Result.ok _ _ = _ at okEq
    cases okEq
    exact ⟨List.tail_suffix _, rfl, rfl⟩
  error errorEq := by
    change EStateM.Result.ok _ _ = _ at errorEq
    cases errorEq

/-- What moves forward wherever it starts moves forward. -/
theorem choose {rule : Rule α}
    (like : ∀ cursor, ∃ other : Rule α, Forward other ∧ rule.run cursor = other.run cursor) :
    Forward rule where
  ok {cursor value after} okEq := by
    obtain ⟨other, forward, runEq⟩ := like cursor
    exact forward.ok (runEq ▸ okEq)
  error {cursor error after} errorEq := by
    obtain ⟨other, forward, runEq⟩ := like cursor
    exact forward.error (runEq ▸ errorEq)

theorem ite {condition : Prop} [Decidable condition] {yes no : Rule α}
    (first : Forward yes) (second : Forward no) :
    Forward (if condition then yes else no) := by
  split <;> assumption

theorem accept (wanted : Kind → Bool) : Forward (accept wanted) where
  ok okEq := by
    rw [run_accept] at okEq
    split at okEq <;> cases okEq
    · exact ⟨List.tail_suffix _, rfl, rfl⟩
    · exact ⟨List.suffix_refl _, rfl, rfl⟩
  error errorEq := by
    rw [run_accept] at errorEq
    split at errorEq <;> cases errorEq

theorem expect (kind : Kind) (purpose : Purpose) : Forward (expect kind purpose) where
  ok okEq := by
    rw [run_expect] at okEq
    split at okEq <;> cases okEq
    exact ⟨List.tail_suffix _, rfl, rfl⟩
  error errorEq := by
    rw [run_expect] at errorEq
    split at errorEq <;> cases errorEq
    exact ⟨List.suffix_refl _, rfl, Nat.le_refl _⟩

theorem unaryOperators : Forward unaryOperators where
  ok okEq := by
    rw [run_unaryOperators] at okEq
    cases okEq
    exact ⟨List.dropWhile_suffix _, rfl, rfl⟩
  error errorEq := by
    rw [run_unaryOperators] at errorEq
    cases errorEq

/-! ### Expressions -/

theorem name : Forward name :=
  .expect _ _

theorem primaryWith {exp : Rule Exp} (nested : Forward exp) : Forward (primaryWith exp) := by
  refine .bind (.accept _) fun literal => ?_
  cases literal with
  | some token => exact .pure _
  | none =>
      refine .bind (.accept _) fun paren => ?_
      cases paren with
      | some token => exact .bind nested fun _ => .bind (.expect _ _) fun _ => .pure _
      | none => exact .bind .name fun _ => .pure _

theorem argsWith {exp : Rule Exp} (nested : Forward exp) : Forward (argsWith exp) := by
  refine .bind (.expect _ _) fun _ => .bind (.accept _) fun paren => ?_
  cases paren with
  | some token => exact .pure _
  | none => exact .bind nested fun _ => .bind (.expect _ _) fun _ => .pure _

theorem callWith {exp : Rule Exp} (nested : Forward exp) : Forward (callWith exp) :=
  .bind (.primaryWith nested) fun _ => .bind (.argsWith nested) fun _ => .pure _

theorem operandWith {exp : Rule Exp} (nested : Forward exp) : Forward (operandWith exp) :=
  .bind .get fun _ => .ite (.bind (.callWith nested) fun _ => .pure _)
    (.bind (.primaryWith nested) fun _ => .pure _)

theorem unaryWith {exp : Rule Exp} (nested : Forward exp) : Forward (unaryWith exp) :=
  .bind .unaryOperators fun _ => .bind (.operandWith nested) fun _ => .pure _

theorem expWith {exp : Rule Exp} (nested : Forward exp) : Forward (expWith exp) := by
  refine .bind (.unaryWith nested) fun _ => .bind (.accept _) fun op => ?_
  cases op with
  | some token => exact .bind (.unaryWith nested) fun _ => .pure _
  | none => exact .pure _

theorem expWithin (bound : Nat) : Forward (expWithin bound) := by
  induction bound with
  | zero => exact .bind .name fun _ => .pure _
  | succ bound inductionHypothesis => exact .expWith inductionHypothesis

/-- A rule that is bounded by the tokens left moves forward if it does under every bound. -/
theorem bounded {rule : Nat → Rule α} (forward : ∀ bound, Forward (rule bound)) :
    Forward (do rule (← MonadState.get).rest.length) :=
  .bind .get fun _ => forward _

theorem exp : Forward exp :=
  .bounded .expWithin

/-! ### Statements -/

theorem declaration : Forward declaration := by
  refine .bind .name fun _ => .bind (.accept _) fun sign => ?_
  cases sign with
  | some token =>
      exact .bind (.map _ .exp) fun _ => .bind (.expect _ _) fun _ => .pure _
  | none => exact .bind (.pure _) fun _ => .bind (.expect _ _) fun _ => .pure _

theorem assignment : Forward assignment :=
  .bind .name fun _ => .bind (.expect _ _) fun _ => .bind .exp fun _ =>
    .bind (.expect _ _) fun _ => .pure _

theorem callStatement : Forward callStatement :=
  .bind (.callWith .exp) fun _ => .bind (.expect _ _) fun _ => .pure _

theorem conditionalEnd : Forward conditionalEnd :=
  .bind (.expect _ _) fun _ => .bind (.expect _ _) fun _ => .pure _

theorem conditionalWith {block : Rule Block} (nested : Forward block) :
    Forward (conditionalWith block) := by
  refine .bind .exp fun _ => .bind (.expect _ _) fun _ => .bind nested fun _ =>
    .bind (.accept _) fun word => ?_
  cases word with
  | some token => exact .bind nested fun _ => .bind .conditionalEnd fun _ => .pure _
  | none => exact .bind .conditionalEnd fun _ => .pure _

theorem statWith {block : Rule Block} (nested : Forward block) : Forward (statWith block) := by
  refine .bind (.accept _) fun word => ?_
  cases word with
  | some token => exact .map _ .declaration
  | none =>
      refine .bind (.accept _) fun word => ?_
      cases word with
      | some token => exact .map _ (.conditionalWith nested)
      | none =>
          exact .bind .get fun _ => .ite (.map _ .assignment)
            (.ite (.map _ .callStatement) (.pure _))

theorem statsWithin {stat : Rule (Option Stat)} (nested : Forward stat) (bound : Nat) :
    Forward (statsWithin stat bound) := by
  induction bound with
  | zero => exact .pure _
  | succ bound inductionHypothesis =>
      refine .bind nested fun first => ?_
      cases first with
      | some first => exact .bind inductionHypothesis fun _ => .pure _
      | none => exact .pure _

theorem blockOf {stats : Rule Block} (nested : Forward stats) : Forward (blockOf stats) where
  ok {cursor block after} okEq := by
    rw [run_blockOf] at okEq
    split at okEq
    · rename_i statsEq
      have inside := nested.ok statsEq
      dsimp only at okEq inside
      split at okEq <;> cases okEq
      exact ⟨inside.1, inside.2.1, by simp only [inside.2.2]; omega⟩
    · cases okEq
  error {cursor error after} errorEq := by
    rw [run_blockOf] at errorEq
    split at errorEq
    · rename_i statsEq
      have inside := nested.ok statsEq
      dsimp only at errorEq inside
      split at errorEq <;> cases errorEq
      exact ⟨inside.1, inside.2.1, by simp only [inside.2.2]; omega⟩
    · rename_i statsEq
      cases errorEq
      have inside := nested.error statsEq
      exact ⟨inside.1, inside.2.1, Nat.le_of_succ_le inside.2.2⟩

theorem blockWithin (bound : Nat) : Forward (blockWithin bound) := by
  induction bound with
  | zero => exact .blockOf (.pure _)
  | succ bound inductionHypothesis =>
      exact .blockOf (.statsWithin (.statWith inductionHypothesis) _)

theorem block : Forward block :=
  .bounded .blockWithin

theorem stat : Forward stat :=
  .statWith .block

theorem stats : Forward stats :=
  .bounded (.statsWithin .stat)

end Forward

/-! ## Reading at least one token -/

/-- A rule reads at least one token when it succeeds. -/
structure Consumes (rule : Rule α) : Prop where
  length_lt {cursor : Cursor} {value : α} {after : Cursor}
    (okEq : rule.run cursor = .ok value after) : after.rest.length < cursor.rest.length

theorem length_tail_lt {cursor : Cursor} (kindNe : cursor.kind ≠ .endOfInput) :
    cursor.rest.tail.length < cursor.rest.length := by
  cases restEq : cursor.rest with
  | nil => simp [Cursor.kind, restEq] at kindNe
  | cons token rest => simp

theorem length_lt_of_accept {wanted : Kind → Bool} {cursor after : Cursor} {token : Token}
    (notEnd : wanted .endOfInput = false)
    (acceptEq : (accept wanted).run cursor = .ok (some token) after) :
    after.rest.length < cursor.rest.length := by
  rw [run_accept] at acceptEq
  split at acceptEq
  · rename_i isWanted
    cases acceptEq
    exact length_tail_lt fun isEnd => by simp [isEnd, notEnd] at isWanted
  · cases acceptEq

theorem eq_of_accept_none {wanted : Kind → Bool} {cursor after : Cursor}
    (acceptEq : (accept wanted).run cursor = .ok none after) : after = cursor := by
  rw [run_accept] at acceptEq
  split at acceptEq <;> cases acceptEq
  rfl

namespace Consumes

theorem expect {kind : Kind} (purpose : Purpose) (notEnd : kind ≠ .endOfInput) :
    Consumes (expect kind purpose) where
  length_lt expectEq := by
    rw [run_expect] at expectEq
    split at expectEq
    · rename_i isKind
      cases expectEq
      exact length_tail_lt (isKind ▸ notEnd)
    · cases expectEq

theorem name : Consumes name :=
  .expect _ (by decide)

theorem bind_left {rule : Rule α} {next : α → Rule β} (first : Consumes rule)
    (second : ∀ value, Forward (next value)) : Consumes (rule >>= next) where
  length_lt okEq := by
    rw [run_bind] at okEq
    split at okEq
    · rename_i betweenEq
      exact Nat.lt_of_le_of_lt ((second _).length_le okEq) (first.length_lt betweenEq)
    · cases okEq

theorem bind_right {rule : Rule α} {next : α → Rule β} (first : Forward rule)
    (second : ∀ value, Consumes (next value)) : Consumes (rule >>= next) where
  length_lt okEq := by
    rw [run_bind] at okEq
    split at okEq
    · rename_i betweenEq
      exact Nat.lt_of_lt_of_le ((second _).length_lt okEq) (first.length_le betweenEq)
    · cases okEq

theorem map {rule : Rule α} (function : α → β) (consumes : Consumes rule) :
    Consumes (function <$> rule) :=
  .bind_left consumes fun _ => .pure _

/-- After an optional token it is enough that something is read where the token is missing. -/
theorem accept_bind {wanted : Kind → Bool} {next : Option Token → Rule β}
    (notEnd : wanted .endOfInput = false) (present : ∀ token, Forward (next (some token)))
    (absent : Consumes (next none)) : Consumes (accept wanted >>= next) where
  length_lt okEq := by
    rw [run_bind] at okEq
    split at okEq
    · rename_i found between betweenEq
      cases found with
      | some token =>
          exact Nat.lt_of_le_of_lt ((present token).length_le okEq)
            (length_lt_of_accept notEnd betweenEq)
      | none =>
          cases eq_of_accept_none betweenEq
          exact absent.length_lt okEq
    · cases okEq

theorem ite {condition : Prop} [Decidable condition] {yes no : Rule α}
    (first : Consumes yes) (second : Consumes no) :
    Consumes (if condition then yes else no) := by
  split <;> assumption

theorem primaryWith {exp : Rule Exp} (nested : Forward exp) : Consumes (primaryWith exp) :=
  .accept_bind rfl (fun _ => .pure _)
    (.accept_bind rfl
      (fun _ => .bind nested fun _ => .bind (.expect _ _) fun _ => .pure _)
      (.bind_left .name fun _ => .pure _))

theorem argsWith {exp : Rule Exp} (nested : Forward exp) : Consumes (argsWith exp) := by
  refine .bind_left (.expect _ (by decide)) fun _ => .bind (.accept _) fun paren => ?_
  cases paren with
  | some token => exact .pure _
  | none => exact .bind nested fun _ => .bind (.expect _ _) fun _ => .pure _

theorem callWith {exp : Rule Exp} (nested : Forward exp) : Consumes (callWith exp) :=
  .bind_left (.primaryWith nested) fun _ => .bind (.argsWith nested) fun _ => .pure _

theorem operandWith {exp : Rule Exp} (nested : Forward exp) : Consumes (operandWith exp) :=
  .bind_right .get fun _ => .ite (.bind_left (.callWith nested) fun _ => .pure _)
    (.bind_left (.primaryWith nested) fun _ => .pure _)

theorem unaryWith {exp : Rule Exp} (nested : Forward exp) : Consumes (unaryWith exp) :=
  .bind_right .unaryOperators fun _ => .bind_left (.operandWith nested) fun _ => .pure _

theorem expWith {exp : Rule Exp} (nested : Forward exp) : Consumes (expWith exp) := by
  refine .bind_left (.unaryWith nested) fun _ => .bind (.accept _) fun op => ?_
  cases op with
  | some token => exact .bind (.unaryWith nested) fun _ => .pure _
  | none => exact .pure _

theorem declaration : Consumes declaration := by
  refine .bind_left .name fun _ => .bind (.accept _) fun sign => ?_
  cases sign with
  | some token => exact .bind (.map _ .exp) fun _ => .bind (.expect _ _) fun _ => .pure _
  | none => exact .bind (.pure _) fun _ => .bind (.expect _ _) fun _ => .pure _

theorem assignment : Consumes assignment :=
  .bind_left .name fun _ => .bind (.expect _ _) fun _ => .bind .exp fun _ =>
    .bind (.expect _ _) fun _ => .pure _

theorem callStatement : Consumes callStatement :=
  .bind_left (.callWith .exp) fun _ => .bind (.expect _ _) fun _ => .pure _

end Consumes

/-- A statement that is found has at least one token. -/
theorem length_lt_of_statWith {block : Rule Block} (nested : Forward block)
    {cursor after : Cursor} {stat : Stat}
    (statEq : (statWith block).run cursor = .ok (some stat) after) :
    after.rest.length < cursor.rest.length := by
  unfold statWith at statEq
  rw [run_bind] at statEq
  split at statEq
  · rename_i word between localEq
    cases word with
    | some token =>
        exact Nat.lt_of_le_of_lt ((Forward.map some .declaration).length_le statEq)
          (length_lt_of_accept rfl localEq)
    | none =>
        cases eq_of_accept_none localEq
        rw [run_bind] at statEq
        split at statEq
        · rename_i word between ifEq
          cases word with
          | some token =>
              exact Nat.lt_of_le_of_lt
                ((Forward.map some (.conditionalWith nested)).length_le statEq)
                (length_lt_of_accept rfl ifEq)
          | none =>
              cases eq_of_accept_none ifEq
              change (if cursor.nextKind = .assign then _ else if _ then _ else _ :
                Rule (Option Stat)).run cursor = _ at statEq
              split at statEq
              · exact (Consumes.map some .assignment).length_lt statEq
              · split at statEq
                · exact (Consumes.map some .callStatement).length_lt statEq
                · cases statEq
        · cases statEq
  · cases statEq

/-- Where no token is left no statement is found. -/
theorem run_statWith_of_nil (block : Rule Block) {cursor : Cursor}
    (restEq : cursor.rest = []) : (statWith block).run cursor = .ok none cursor := by
  obtain ⟨rest, marker, depth⟩ := cursor
  cases restEq
  rfl

end Lunette.Rule
