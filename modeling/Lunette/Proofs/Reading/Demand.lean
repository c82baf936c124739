import Lunette.Proofs.Reading.Account

/-!
# Failing rules demand a token

A rule of the grammar that fails inside a block does so for want of a token of one kind, and
names the token that stands in its place.  What the rule has read, with the demanded kind
behind it, can always be completed to what the rule reads: reading never goes on past a token
that spoils the phrase, and never asks for one that would.

Completion is about kinds alone.  It is carried through a rule step by step: what is read
before a step is put in front of what the step completes.
-/

namespace Lunette.Rule

variable {α β : Type}

/-- If the rule fails at the cursor it demands a kind of token in place of the one it has come
to, and the kinds read with the demanded one behind them can be completed. -/
def Demands (rule : Rule α) (cursor : Cursor) (Completed : List Kind → Prop) : Prop :=
  ∀ error after, rule.run cursor = .error error after →
    ∃ read expected purpose more, error = .expectedToken expected purpose after.current ∧
      cursor.rest = read ++ after.rest ∧
      Completed (read.map Token.kind ++ expected :: more)

namespace Demands

variable {cursor : Cursor} {Completed : List Kind → Prop}

theorem pure (value : α) : Demands (pure value) cursor Completed := by
  intro error after errorEq
  rw [run_pure] at errorEq
  cases errorEq

/-- What completes one phrase can be part of what completes another. -/
theorem mono {rule : Rule α} {Part : List Kind → Prop} (demands : Demands rule cursor Part)
    (complete : ∀ kinds, Part kinds → ∃ more, Completed (kinds ++ more)) :
    Demands rule cursor Completed := by
  intro error after errorEq
  obtain ⟨read, expected, purpose, part, rfl, restEq, holds⟩ := demands error after errorEq
  obtain ⟨more, whole⟩ := complete _ holds
  rw [List.append_assoc, List.cons_append] at whole
  exact ⟨read, expected, purpose, part ++ more, rfl, restEq, whole⟩

/-- What completes one phrase can complete another as it is. -/
theorem imp {rule : Rule α} {Part : List Kind → Prop} (demands : Demands rule cursor Part)
    (complete : ∀ kinds, Part kinds → Completed kinds) : Demands rule cursor Completed := by
  apply demands.mono
  intro kinds part
  refine ⟨[], ?_⟩
  rw [List.append_nil]
  exact complete kinds part

/-- A rule that fails behind its first step demands what the rest of it does. -/
theorem bind {rule : Rule α} {next : α → Rule β} {Account : α → List Token → Prop}
    (forward : Forward rule) (reads : Reads rule Account)
    (first : Demands rule cursor Completed)
    (second : ∀ value tokens between, Account value tokens →
      cursor.rest = tokens ++ between.rest → between.depth = cursor.depth →
      Demands (next value) between fun kinds => Completed (tokens.map Token.kind ++ kinds)) :
    Demands (rule >>= next) cursor Completed := by
  intro error after errorEq
  rw [run_bind] at errorEq
  split at errorEq
  · rename_i value between okEq
    obtain ⟨tokens, restEq, account⟩ := reads.account okEq
    have sameDepth := (forward.ok okEq).2.2
    obtain ⟨read, expected, purpose, more, rfl, betweenEq, holds⟩ :=
      second value tokens between account restEq sameDepth error after errorEq
    have wholeEq : cursor.rest = (tokens ++ read) ++ after.rest := by
      rw [restEq, betweenEq, List.append_assoc]
    rw [← List.append_assoc, ← List.map_append] at holds
    exact ⟨tokens ++ read, expected, purpose, more, rfl, wholeEq, holds⟩
  · rename_i failedEq
    cases errorEq
    exact first error after failedEq

/-- The last step of a rule does not fail. -/
theorem bind_pure {rule : Rule α} (next : α → β) (demands : Demands rule cursor Completed) :
    Demands (rule >>= fun value => Pure.pure (next value)) cursor Completed := by
  intro error after errorEq
  rw [run_bind] at errorEq
  split at errorEq
  · cases errorEq
  · rename_i failedEq
    cases errorEq
    exact demands error after failedEq

theorem map {rule : Rule α} (function : α → β) (demands : Demands rule cursor Completed) :
    Demands (function <$> rule) cursor Completed :=
  demands.bind_pure function

/-- After an optional token either the token has been read or nothing has. -/
theorem accept_bind {wanted : Kind → Bool} {next : Option Token → Rule β}
    (notEnd : wanted .endOfInput = false)
    (present : ∀ token between, wanted token.kind = true → between.depth = cursor.depth →
      Demands (next (some token)) between fun kinds => Completed (token.kind :: kinds))
    (absent : wanted cursor.kind = false → Demands (next none) cursor Completed) :
    Demands (accept wanted >>= next) cursor Completed := by
  intro error after errorEq
  rw [run_bind, run_accept] at errorEq
  by_cases isWanted : wanted cursor.kind = true
  · rw [if_pos isWanted] at errorEq
    rcases cursor with ⟨rest, marker, depth⟩
    cases rest with
    | nil =>
        change wanted .endOfInput = true at isWanted
        rw [notEnd] at isWanted
        cases isWanted
    | cons token rest =>
        obtain ⟨read, expected, purpose, more, rfl, restEq, holds⟩ :=
          present token ⟨rest, marker, depth⟩ isWanted rfl error after errorEq
        have wholeEq : token :: rest = token :: read ++ after.rest :=
          congrArg (token :: ·) restEq
        exact ⟨token :: read, expected, purpose, more, rfl, wholeEq, holds⟩
  · rw [if_neg isWanted] at errorEq
    exact absent (Bool.eq_false_iff.mpr isWanted) error after errorEq

/-- After an optional token of one kind either such a token has been read or nothing has. -/
theorem accept_kind_bind {kind : Kind} {next : Option Token → Rule β}
    (notEnd : kind ≠ .endOfInput)
    (present : ∀ token between, between.depth = cursor.depth →
      Demands (next (some token)) between fun kinds => Completed (kind :: kinds))
    (absent : cursor.kind ≠ kind → Demands (next none) cursor Completed) :
    Demands (accept (· = kind) >>= next) cursor Completed := by
  apply accept_bind (decide_eq_false notEnd.symm)
  · intro token between isKind sameDepth
    rw [of_decide_eq_true isKind]
    exact present token between sameDepth
  · intro notKind
    exact absent (of_decide_eq_false notKind)

theorem expect {kind : Kind} (purpose : Purpose)
    (complete : ∃ more, Completed (kind :: more)) :
    Demands (expect kind purpose) cursor Completed := by
  intro error after errorEq
  rw [run_expect] at errorEq
  split at errorEq
  · cases errorEq
  · cases errorEq
    obtain ⟨more, holds⟩ := complete
    exact ⟨[], kind, purpose, more, rfl, rfl, holds⟩

/-- A needed token is demanded, and behind it what the rest of the rule demands. -/
theorem expect_bind {kind : Kind} {purpose : Purpose} {next : Token → Rule β}
    (notEnd : kind ≠ .endOfInput) (complete : ∃ more, Completed (kind :: more))
    (second : ∀ token between, between.depth = cursor.depth →
      Demands (next token) between fun kinds => Completed (kind :: kinds)) :
    Demands (Rule.expect kind purpose >>= next) cursor Completed := by
  apply bind (.expect _ _) (.expect notEnd) (expect purpose complete)
  rintro token _ between ⟨isKind, rfl⟩ - sameDepth
  rw [List.map_singleton, isKind]
  exact second token between sameDepth

/-- A rule that is bounded by the tokens left demands what it does under every bound. -/
theorem bounded {rule : Nat → Rule α} (demands : ∀ bound, Demands (rule bound) cursor Completed) :
    Demands (do rule (← get).rest.length) cursor Completed :=
  demands cursor.rest.length

end Demands

end Lunette.Rule
