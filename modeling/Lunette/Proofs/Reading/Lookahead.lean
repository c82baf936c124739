import Lunette.Grammar.Nesting

/-!
# How far rules look ahead

What a rule does depends on the tokens it reads and on what it sees where it stops: the token
there, and of the token behind that one no more than whether it is an assignment sign.  Even
that is of no account where the rule stops at a name, because a rule that looks past a name
reads it in any case.  Nothing further on matters, and nothing is read twice.

A rule is local when this is so.  Locality is carried through the steps of a rule: a step
that stops where the rule does sees what the rule sees, and a step that stops earlier sees
tokens that the rule goes on to read.
-/

namespace Lunette

namespace Cursor

/-- The cursor in front of the given tokens, with the given number of blocks open. -/
def source (cursor : Cursor) (front : List Token) (depth : Nat) : Cursor :=
  ⟨front ++ cursor.rest, cursor.marker, depth⟩

@[simp]
theorem source_rest (cursor : Cursor) (front : List Token) (depth : Nat) :
    (cursor.source front depth).rest = front ++ cursor.rest :=
  rfl

theorem source_append (cursor : Cursor) (first second : List Token) (depth other : Nat) :
    cursor.source (first ++ second) depth = (cursor.source second other).source first depth := by
  simp [source]

theorem eq_source_of_suffix {cursor after : Cursor} (suffix : after.rest <:+ cursor.rest)
    (marker : after.marker = cursor.marker) :
    ∃ front depth, cursor = after.source front depth := by
  obtain ⟨front, restEq⟩ := suffix
  refine ⟨front, cursor.depth, ?_⟩
  rw [source, restEq, marker]

theorem nextKind_source_cons (cursor : Cursor) (token : Token) (front : List Token)
    (depth : Nat) :
    (cursor.source (token :: front) depth).nextKind = (cursor.source front depth).kind := by
  simp only [source, nextKind, kind, List.cons_append]
  cases front ++ cursor.rest <;> rfl

/-- Two cursors look alike to a rule that stops there. -/
structure Alike (after other : Cursor) : Prop where
  current : after.current = other.current
  kind : after.kind = other.kind
  depth : after.depth = other.depth
  assign : after.kind ≠ .identifier → (after.nextKind = .assign ↔ other.nextKind = .assign)

namespace Alike

variable {after other : Cursor}

/-- Cursors in front of the same tokens look alike if those behind the tokens do. -/
theorem source (alike : after.Alike other) (front : List Token) (depth : Nat) :
    (after.source front depth).Alike (other.source front depth) := by
  cases front with
  | nil => exact ⟨alike.current, alike.kind, rfl, alike.assign⟩
  | cons token front =>
      refine ⟨rfl, rfl, rfl, fun _ => ?_⟩
      rw [nextKind_source_cons, nextKind_source_cons]
      cases front with
      | nil => exact iff_of_eq (congrArg (· = Kind.assign) alike.kind)
      | cons token front => exact Iff.rfl

/-- A cursor is its own source only where nothing is put in front of it. -/
theorem source_eq (alike : after.Alike other) {front : List Token} {depth : Nat}
    (sourceEq : after.source front depth = after) :
    front = [] ∧ other.source front depth = other := by
  have restEq := congrArg Cursor.rest sourceEq
  have depthEq := congrArg Cursor.depth sourceEq
  cases List.append_left_eq_self.mp restEq
  change depth = after.depth at depthEq
  rw [depthEq, alike.depth]
  exact ⟨rfl, rfl⟩

/-- What follows the first of the same tokens is of one kind. -/
theorem nextKind_source (alike : after.Alike other) (token : Token) (front : List Token)
    (depth : Nat) :
    (after.source (token :: front) depth).nextKind =
      (other.source (token :: front) depth).nextKind := by
  rw [nextKind_source_cons, nextKind_source_cons]
  exact (alike.source front depth).kind

end Alike

end Cursor

namespace Rule

variable {α β : Type}

/-- The result of a rule that stops at the cursor. -/
def stop (verdict : Except ParseError α) (after : Cursor) :
    EStateM.Result ParseError Cursor α :=
  match verdict with
  | .ok value => .ok value after
  | .error error => .error error after

theorem ok_eq_stop_iff {value : α} {cursor after : Cursor} {verdict : Except ParseError α} :
    EStateM.Result.ok value cursor = stop verdict after ↔
      verdict = .ok value ∧ cursor = after := by
  cases verdict <;> simp [stop, eq_comm]

theorem error_eq_stop_iff {error : ParseError} {cursor after : Cursor}
    {verdict : Except ParseError α} :
    EStateM.Result.error error cursor = stop verdict after ↔
      verdict = .error error ∧ cursor = after := by
  cases verdict <;> simp [stop, eq_comm]

/-- Wherever a rule stops, what is left are the last ones of its tokens. -/
theorem Forward.stop {rule : Rule α} (forward : Forward rule) {cursor after : Cursor}
    {verdict : Except ParseError α} (stops : rule.run cursor = Rule.stop verdict after) :
    after.rest <:+ cursor.rest ∧ after.marker = cursor.marker := by
  cases verdict with
  | ok value =>
      have moved := forward.ok stops
      exact ⟨moved.1, moved.2.1⟩
  | error error =>
      have moved := forward.error stops
      exact ⟨moved.1, moved.2.1⟩

/-- A rule moves forward, and does the same wherever it sees the same. -/
structure Local (rule : Rule α) : Prop where
  forward : Forward rule
  same {after other : Cursor} (alike : after.Alike other) {front : List Token} {depth : Nat}
    {verdict : Except ParseError α}
    (stops : rule.run (after.source front depth) = stop verdict after) :
    rule.run (other.source front depth) = stop verdict other

namespace Local

theorem pure (value : α) : Local (pure value : Rule α) := by
  refine ⟨.pure value, ?_⟩
  intro after other alike front depth verdict stops
  obtain ⟨rfl, sourceEq⟩ := ok_eq_stop_iff.mp stops
  rw [run_pure, (alike.source_eq sourceEq).2]
  rfl

theorem bind {rule : Rule α} {next : α → Rule β} (first : Local rule)
    (second : ∀ value, Local (next value)) : Local (rule >>= next) := by
  refine ⟨.bind first.forward fun value => (second value).forward, ?_⟩
  intro after other alike front depth verdict stops
  rw [run_bind] at stops ⊢
  cases firstEq : rule.run (after.source front depth) with
  | error error between =>
      simp only [firstEq] at stops
      obtain ⟨rfl, rfl⟩ := error_eq_stop_iff.mp stops
      have firstSame : rule.run (other.source front depth) = stop (.error error) other :=
        first.same alike firstEq
      rw [firstSame]
      rfl
  | ok value between =>
      simp only [firstEq] at stops
      have behind := (second value).forward.stop stops
      obtain ⟨back, inner, rfl⟩ := Cursor.eq_source_of_suffix behind.1 behind.2
      obtain ⟨read, restEq⟩ := (first.forward.ok firstEq).1
      rw [Cursor.source_rest, Cursor.source_rest, ← List.append_assoc] at restEq
      cases List.append_cancel_right restEq
      rw [Cursor.source_append _ _ _ _ inner] at firstEq ⊢
      have firstSame : rule.run ((other.source back inner).source read depth) =
          stop (.ok value) (other.source back inner) :=
        first.same (alike.source back inner) firstEq
      rw [firstSame]
      exact (second value).same alike stops

theorem map {rule : Rule α} (function : α → β) (isLocal : Local rule) :
    Local (function <$> rule) :=
  .bind isLocal fun _ => .pure _

/-- A token that is read is one of those in front of the place where the rule stops. -/
theorem tail_source_eq {after other : Cursor} (alike : after.Alike other) {front : List Token}
    {depth : Nat} (notEnd : (after.source front depth).kind ≠ .endOfInput)
    (tailEq : { after.source front depth with rest := (front ++ after.rest).tail } = after) :
    { other.source front depth with rest := (front ++ other.rest).tail } = other := by
  cases front with
  | nil =>
      have sameLength := congrArg (fun cursor => cursor.rest.length) tailEq
      exact absurd sameLength (Nat.ne_of_lt (length_tail_lt notEnd))
  | cons token front => exact (alike.source_eq tailEq).2

theorem accept {wanted : Kind → Bool} (notEnd : wanted .endOfInput = false) :
    Local (accept wanted) := by
  refine ⟨.accept wanted, ?_⟩
  intro after other alike front depth verdict stops
  have ahead := alike.source front depth
  rw [run_accept] at stops ⊢
  rw [← ahead.kind, ← ahead.current]
  by_cases isWanted : wanted (after.source front depth).kind = true
  · rw [if_pos isWanted] at stops ⊢
    obtain ⟨rfl, tailEq⟩ := ok_eq_stop_iff.mp stops
    have kindNe : (after.source front depth).kind ≠ .endOfInput := by
      intro isEnd
      rw [isEnd, notEnd] at isWanted
      cases isWanted
    exact congrArg (EStateM.Result.ok _) (tail_source_eq alike kindNe tailEq)
  · rw [if_neg isWanted] at stops ⊢
    obtain ⟨rfl, sourceEq⟩ := ok_eq_stop_iff.mp stops
    exact congrArg (EStateM.Result.ok _) (alike.source_eq sourceEq).2

theorem expect {kind : Kind} (purpose : Purpose) (notEnd : kind ≠ .endOfInput) :
    Local (expect kind purpose) := by
  refine ⟨.expect kind purpose, ?_⟩
  intro after other alike front depth verdict stops
  have ahead := alike.source front depth
  rw [run_expect] at stops ⊢
  rw [← ahead.kind, ← ahead.current]
  by_cases isKind : (after.source front depth).kind = kind
  · rw [if_pos isKind] at stops ⊢
    obtain ⟨rfl, tailEq⟩ := ok_eq_stop_iff.mp stops
    have kindNe : (after.source front depth).kind ≠ .endOfInput := isKind ▸ notEnd
    exact congrArg (EStateM.Result.ok _) (tail_source_eq alike kindNe tailEq)
  · rw [if_neg isKind] at stops ⊢
    obtain ⟨rfl, sourceEq⟩ := error_eq_stop_iff.mp stops
    exact congrArg (EStateM.Result.error _) (alike.source_eq sourceEq).2

/-- Prefix operators are read up to a token that is none. -/
theorem run_unaryOperators_source {after : Cursor} {front : List Token} {depth : Nat}
    (allUnary : ∀ op ∈ front, op.kind.isUnaryOperator = true)
    (notUnary : after.kind.isUnaryOperator = false) :
    unaryOperators.run (after.source front depth) = .ok front (after.source [] depth) := by
  have noMore : after.rest.takeWhile (·.kind.isUnaryOperator) = [] ∧
      after.rest.dropWhile (·.kind.isUnaryOperator) = after.rest := by
    rcases after with ⟨_ | ⟨token, rest⟩, marker, inner⟩
    · exact ⟨rfl, rfl⟩
    · change token.kind.isUnaryOperator = false at notUnary
      simp [notUnary]
  rw [run_unaryOperators, Cursor.source_rest, List.takeWhile_append_of_pos allUnary,
    List.dropWhile_append_of_pos allUnary, noMore.1, noMore.2, List.append_nil]
  rfl

/-- Where no more is left than stands behind the tokens, the tokens are all the prefix
operators there are. -/
theorem allUnary_of_dropWhile {after : Cursor} {front : List Token}
    (dropEq : (front ++ after.rest).dropWhile (·.kind.isUnaryOperator) = after.rest) :
    (∀ op ∈ front, op.kind.isUnaryOperator = true) ∧ after.kind.isUnaryOperator = false := by
  have whole := List.takeWhile_append_dropWhile (p := (·.kind.isUnaryOperator))
    (l := front ++ after.rest)
  rw [dropEq] at whole
  have takeEq := List.append_cancel_right whole
  have allUnary : ∀ op ∈ front, op.kind.isUnaryOperator = true := by
    intro op member
    rw [← takeEq] at member
    exact List.all_eq_true.mp List.all_takeWhile op member
  rw [List.dropWhile_append_of_pos allUnary] at dropEq
  refine ⟨allUnary, ?_⟩
  rcases after with ⟨_ | ⟨token, rest⟩, marker, depth⟩
  · rfl
  · cases isUnary : token.kind.isUnaryOperator with
    | false => exact isUnary
    | true =>
        have dropMore : (token :: rest).dropWhile (·.kind.isUnaryOperator) =
            rest.dropWhile (·.kind.isUnaryOperator) := List.dropWhile_cons_of_pos isUnary
        have suffix : (rest.dropWhile (·.kind.isUnaryOperator)) <:+ rest :=
          List.dropWhile_suffix _
        rw [← dropMore, dropEq] at suffix
        exact absurd suffix.length_le (Nat.not_succ_le_self _)

theorem unaryOperators : Local unaryOperators := by
  refine ⟨.unaryOperators, ?_⟩
  intro after other alike front depth verdict stops
  have read := stops
  rw [run_unaryOperators] at read
  obtain ⟨-, sourceEq⟩ := ok_eq_stop_iff.mp read
  obtain ⟨allUnary, notUnary⟩ := allUnary_of_dropWhile (congrArg Cursor.rest sourceEq)
  rw [run_unaryOperators_source allUnary notUnary] at stops
  rw [run_unaryOperators_source allUnary (alike.kind ▸ notUnary)]
  obtain ⟨rfl, atAfter⟩ := ok_eq_stop_iff.mp stops
  exact congrArg (EStateM.Result.ok _) (alike.source_eq atAfter).2

/-- A rule that is bounded by the tokens left is local if it is under every bound, and larger
bounds make no difference. -/
theorem bounded {rule : Nat → Rule α} (isLocal : ∀ bound, Local (rule bound))
    (stable : ∀ bound {more : Nat} {cursor : Cursor}, cursor.rest.length ≤ bound →
      bound ≤ more → (rule more).run cursor = (rule bound).run cursor) :
    Local (do rule (← get).rest.length) := by
  refine ⟨.bounded fun bound => (isLocal bound).forward, ?_⟩
  intro after other alike front depth verdict stops
  change (rule (after.source front depth).rest.length).run _ = _ at stops
  change (rule (other.source front depth).rest.length).run _ = _
  have first := Nat.le_max_left (after.source front depth).rest.length
    (other.source front depth).rest.length
  have second := Nat.le_max_right (after.source front depth).rest.length
    (other.source front depth).rest.length
  rw [← stable _ (Nat.le_refl _) first] at stops
  rw [← stable _ (Nat.le_refl _) second]
  exact (isLocal _).same alike stops

end Local

/-! ## Rules that look past a name -/

/-- A rule that finds a name at the cursor does not stop in front of it. -/
structure TakesName (rule : Rule α) : Prop where
  length_lt {cursor after : Cursor} {verdict : Except ParseError α}
    (isName : cursor.kind = .identifier) (stops : rule.run cursor = stop verdict after) :
    after.rest.length < cursor.rest.length

namespace TakesName

theorem name : TakesName name where
  length_lt {cursor after verdict} isName stops := by
    change (expect _ _).run cursor = _ at stops
    rw [run_expect, if_pos isName] at stops
    obtain ⟨-, rfl⟩ := ok_eq_stop_iff.mp stops
    exact length_tail_lt (by simp [isName])

theorem bind {rule : Rule α} {next : α → Rule β} (first : TakesName rule)
    (second : ∀ value, Forward (next value)) : TakesName (rule >>= next) where
  length_lt {cursor after verdict} isName stops := by
    rw [run_bind] at stops
    cases firstEq : rule.run cursor with
    | ok value between =>
        have firstStops : rule.run cursor = stop (.ok value) between := firstEq
        simp only [firstEq] at stops
        have suffix := ((second value).stop stops).1
        exact Nat.lt_of_le_of_lt suffix.length_le (first.length_lt isName firstStops)
    | error error between =>
        have firstStops : rule.run cursor = stop (.error error) between := firstEq
        simp only [firstEq] at stops
        obtain ⟨-, rfl⟩ := error_eq_stop_iff.mp stops
        exact first.length_lt isName firstStops

theorem map {rule : Rule α} (function : α → β) (takes : TakesName rule) :
    TakesName (function <$> rule) :=
  .bind takes fun _ => .pure _

/-- Where something other than a name is optional, the rest of the rule finds the name. -/
theorem accept_bind {wanted : Kind → Bool} {next : Option Token → Rule β}
    (notName : wanted .identifier = false) (absent : TakesName (next none)) :
    TakesName (accept wanted >>= next) where
  length_lt {cursor after verdict} isName stops := by
    rw [run_bind, run_accept, isName, notName] at stops
    exact absent.length_lt isName stops

end TakesName

namespace Local

/-- A choice between two rules is local if it is made by what the rule sees, where it may look
past a name provided that the name is then read. -/
theorem choice {rule yes no : Rule α} (Chosen : Cursor → Prop) [DecidablePred Chosen]
    (runEq : ∀ cursor, rule.run cursor = (if Chosen cursor then yes else no : Rule α).run cursor)
    (first : Local yes) (second : Local no) (takes : TakesName rule)
    (agree : ∀ {after other : Cursor}, after.Alike other → ∀ front depth,
      (front = [] → after.kind ≠ .identifier) →
        (Chosen (after.source front depth) ↔ Chosen (other.source front depth))) :
    Local rule := by
  have forward : Forward rule :=
    ⟨fun okEq => (Forward.ite first.forward second.forward).ok ((runEq _).symm.trans okEq),
      fun errorEq =>
        (Forward.ite first.forward second.forward).error ((runEq _).symm.trans errorEq)⟩
  refine ⟨forward, ?_⟩
  intro after other alike front depth verdict stops
  have notName : front = [] → after.kind ≠ .identifier := by
    rintro rfl isName
    have atName : (after.source [] depth).kind = .identifier := isName
    exact absurd (takes.length_lt atName stops) (Nat.lt_irrefl _)
  have sameChoice := agree alike front depth notName
  rw [runEq] at stops ⊢
  by_cases chosen : Chosen (after.source front depth)
  · rw [if_pos chosen] at stops
    rw [if_pos (sameChoice.mp chosen)]
    exact first.same alike stops
  · rw [if_neg chosen] at stops
    rw [if_neg fun otherChosen => chosen (sameChoice.mpr otherChosen)]
    exact second.same alike stops

end Local

end Rule

end Lunette
