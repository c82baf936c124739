import Lunette.Grammar.Nesting
import Lunette.Proofs.Phrase.Map

/-!
# Rules look at kinds only

If the tokens in front of a rule are changed without a change of their kinds, the rule does
the same with the changed tokens: it stops at the same place, yields the phrase with the
changed tokens in it, and reports the changed token where it fails.

One rule follows another one when this relates the two.  Every rule of the grammar follows
itself; in between, the rules that go on with a token go on with the changed one.
-/

namespace Lunette

open Ast

/-- The cursor at the changed tokens. -/
def Cursor.map (function : Token → Token) (cursor : Cursor) : Cursor :=
  ⟨cursor.rest.map function, function cursor.marker, cursor.depth⟩

/-- The error at the changed token. -/
def ParseError.map (function : Token → Token) : ParseError → ParseError
  | .expectedToken expected purpose found => .expectedToken expected purpose (function found)
  | .unexpectedTopLevel found => .unexpectedTopLevel (function found)

variable {function : Token → Token}

namespace Cursor

theorem current_map (cursor : Cursor) :
    (cursor.map function).current = function cursor.current := by
  rcases cursor with ⟨_ | ⟨token, rest⟩, marker, depth⟩ <;> rfl

theorem kind_map (keeps : KeepsKinds function) (cursor : Cursor) :
    (cursor.map function).kind = cursor.kind := by
  rcases cursor with ⟨_ | ⟨token, rest⟩, marker, depth⟩
  · rfl
  · exact keeps token

theorem nextKind_map (keeps : KeepsKinds function) (cursor : Cursor) :
    (cursor.map function).nextKind = cursor.nextKind := by
  rcases cursor with ⟨_ | ⟨token, _ | ⟨next, rest⟩⟩, marker, depth⟩
  · rfl
  · rfl
  · exact keeps next

/-- The cursor behind one of the changed tokens. -/
theorem map_tail (cursor : Cursor) :
    { cursor.map function with rest := (cursor.map function).rest.tail } =
      Cursor.map function { cursor with rest := cursor.rest.tail } := by
  simp only [map, List.map_tail]

end Cursor

namespace Rule

variable {α β : Type}

/-- The result with the changed tokens, where the value is carried over. -/
def carried (function : Token → Token) (carry : α → α) :
    EStateM.Result ParseError Cursor α → EStateM.Result ParseError Cursor α
  | .ok value after => .ok (carry value) (after.map function)
  | .error error after => .error (error.map function) (after.map function)

/-- The second rule does with the changed tokens what the first one does with the others. -/
def Follows (function : Token → Token) (carry : α → α) (rule other : Rule α) : Prop :=
  ∀ cursor, other.run (cursor.map function) = carried function carry (rule.run cursor)

namespace Follows

theorem pure {carry : α → α} (value : α) :
    Follows function carry (pure value) (pure (carry value)) :=
  fun _ => rfl

theorem bind {carry : α → α} {carryNext : β → β} {rule other : Rule α}
    {next otherNext : α → Rule β} (first : Follows function carry rule other)
    (second : ∀ value, Follows function carryNext (next value) (otherNext (carry value))) :
    Follows function carryNext (rule >>= next) (other >>= otherNext) := by
  intro cursor
  rw [run_bind, run_bind, first cursor]
  cases rule.run cursor with
  | ok value after => exact second value after
  | error error after => rfl

theorem map {carry : α → α} {carryNext : β → β} {rule other : Rule α} {wrap : α → β}
    (follows : Follows function carry rule other)
    (wraps : ∀ value, carryNext (wrap value) = wrap (carry value)) :
    Follows function carryNext (wrap <$> rule) (wrap <$> other) := by
  apply follows.bind
  intro value
  rw [← wraps]
  exact pure (wrap value)

section Kinds

variable (keeps : KeepsKinds function)

include keeps

theorem accept (wanted : Kind → Bool) :
    Follows function (Option.map function) (accept wanted) (accept wanted) := by
  intro cursor
  rw [run_accept, run_accept, cursor.kind_map keeps, cursor.current_map, cursor.map_tail]
  split <;> rfl

theorem expect (kind : Kind) (purpose : Purpose) :
    Follows function function (expect kind purpose) (expect kind purpose) := by
  intro cursor
  rw [run_expect, run_expect, cursor.kind_map keeps, cursor.current_map, cursor.map_tail]
  split <;> rfl

theorem unaryOperators :
    Follows function (List.map function) unaryOperators unaryOperators := by
  intro cursor
  have sameKinds : (fun token => token.kind.isUnaryOperator) ∘ function =
      fun token => token.kind.isUnaryOperator := by
    funext token
    exact congrArg Kind.isUnaryOperator (keeps token)
  rw [run_unaryOperators, run_unaryOperators]
  simp only [Cursor.map, carried, List.takeWhile_map, List.dropWhile_map, sameKinds]

/-! ## Expressions -/

theorem name : Follows function function name name :=
  expect keeps _ _

section Nested

variable {exp : Rule Exp} (nested : Follows function (Exp.map function) exp exp)

include nested

theorem primaryWith :
    Follows function (Primary.map function) (primaryWith exp) (primaryWith exp) := by
  apply (accept keeps _).bind
  intro literal
  cases literal with
  | some token => exact pure (Primary.term token)
  | none =>
      apply (accept keeps _).bind
      intro paren
      cases paren with
      | some token =>
          apply nested.bind
          intro inner
          apply (expect keeps _ _).bind
          intro closing
          exact pure (Primary.paren inner)
      | none =>
          apply (name keeps).bind
          intro token
          exact pure (Primary.term token)

theorem argsWith : Follows function (Args.map function) (argsWith exp) (argsWith exp) := by
  apply (expect keeps _ _).bind
  intro opening
  apply (accept keeps _).bind
  intro paren
  cases paren with
  | some token => exact pure Args.empty
  | none =>
      apply nested.bind
      intro value
      apply (expect keeps _ _).bind
      intro closing
      exact pure (Args.one value)

theorem callWith : Follows function (Call.map function) (callWith exp) (callWith exp) := by
  apply (primaryWith keeps nested).bind
  intro callee
  apply (argsWith keeps nested).bind
  intro args
  exact pure (Call.of callee args)

theorem operandWith :
    Follows function (Operand.map function) (operandWith exp) (operandWith exp) := by
  have calls : Follows function (Operand.map function) (Operand.call <$> Rule.callWith exp)
      (Operand.call <$> Rule.callWith exp) :=
    (callWith keeps nested).map fun _ => rfl
  have singles : Follows function (Operand.map function) (Operand.primary <$> Rule.primaryWith exp)
      (Operand.primary <$> Rule.primaryWith exp) :=
    (primaryWith keeps nested).map fun _ => rfl
  intro cursor
  change (if _ then _ else _ : Rule Operand).run _ = carried _ _ ((if _ then _ else _ :
    Rule Operand).run cursor)
  rw [cursor.kind_map keeps, cursor.nextKind_map keeps]
  split
  · exact calls cursor
  · exact singles cursor

omit keeps nested in
/-- The operators are changed one by one. -/
theorem underOperators_map (ops : List Token) (operand : Operand) :
    (underOperators ops operand).map function =
      underOperators (ops.map function) (operand.map function) := by
  induction ops with
  | nil => rfl
  | cons op ops inductionHypothesis =>
      exact congrArg (fun inner => Unary.prefixed (function op) (.unary inner)) inductionHypothesis

theorem unaryWith : Follows function (Unary.map function) (unaryWith exp) (unaryWith exp) := by
  apply (unaryOperators keeps).bind
  intro ops
  apply (operandWith keeps nested).bind
  intro operand
  rw [← underOperators_map]
  exact pure (underOperators ops operand)

theorem expWith : Follows function (Exp.map function) (expWith exp) (expWith exp) := by
  apply (unaryWith keeps nested).bind
  intro left
  apply (accept keeps _).bind
  intro op
  cases op with
  | some token =>
      apply (unaryWith keeps nested).bind
      intro right
      exact pure (Exp.applied left token right)
  | none => exact pure (Exp.single left)

end Nested

theorem expWithin (bound : Nat) :
    Follows function (Exp.map function) (expWithin bound) (expWithin bound) := by
  induction bound with
  | zero =>
      apply (name keeps).bind
      intro token
      exact pure (Exp.single (.bare (.primary (.term token))))
  | succ bound inductionHypothesis => exact expWith keeps inductionHypothesis

omit keeps in
/-- There are as many changed tokens as there are others. -/
theorem bounded {carry : α → α} {rule : Nat → Rule α}
    (follows : ∀ bound, Follows function carry (rule bound) (rule bound)) :
    Follows function carry (do rule (← get).rest.length) (do rule (← get).rest.length) := by
  intro cursor
  change (rule (cursor.rest.map function).length).run (cursor.map function) = _
  rw [List.length_map]
  exact follows _ cursor

theorem exp : Follows function (Exp.map function) exp exp :=
  bounded (expWithin keeps)

/-! ## Statements -/

theorem declaration : Follows function (Stat.map function) declaration declaration := by
  apply (name keeps).bind
  intro target
  apply (accept keeps _).bind
  intro sign
  cases sign with
  | some token =>
      have values : Follows function (Option.map (Exp.map function)) (some <$> Rule.exp)
          (some <$> Rule.exp) :=
        (exp keeps).map fun _ => rfl
      apply values.bind
      intro value
      apply (expect keeps _ _).bind
      intro closing
      exact pure (Stat.declare target value)
  | none =>
      apply (expect keeps _ _).bind
      intro closing
      exact pure (Stat.declare target none)

theorem assignment : Follows function (Stat.map function) assignment assignment := by
  apply (name keeps).bind
  intro target
  apply (expect keeps _ _).bind
  intro sign
  apply (exp keeps).bind
  intro value
  apply (expect keeps _ _).bind
  intro closing
  exact pure (Stat.assign target value)

theorem callStatement : Follows function (Stat.map function) callStatement callStatement := by
  apply (callWith keeps (exp keeps)).bind
  intro inner
  apply (expect keeps _ _).bind
  intro closing
  exact pure (Stat.call inner)

theorem conditionalEnd : Follows function id conditionalEnd conditionalEnd := by
  apply (expect keeps _ _).bind
  intro word
  apply (expect keeps _ _).bind
  intro closing
  exact pure ()

section Nested

variable {block : Rule Block} (nested : Follows function (Stat.mapAll function) block block)

include nested

theorem conditionalWith :
    Follows function (Stat.map function) (conditionalWith block) (conditionalWith block) := by
  apply (exp keeps).bind
  intro condition
  apply (expect keeps _ _).bind
  intro word
  apply nested.bind
  intro body
  apply (accept keeps _).bind
  intro choice
  cases choice with
  | some token =>
      apply nested.bind
      intro other
      apply (conditionalEnd keeps).bind
      intro _
      exact pure (Stat.ifThenElse condition body other)
  | none =>
      apply (conditionalEnd keeps).bind
      intro _
      exact pure (Stat.ifThen condition body)

theorem statWith :
    Follows function (Option.map (Stat.map function)) (statWith block) (statWith block) := by
  apply (accept keeps _).bind
  intro word
  cases word with
  | some token => exact (declaration keeps).map fun _ => rfl
  | none =>
      apply (accept keeps _).bind
      intro word
      cases word with
      | some token => exact (conditionalWith keeps nested).map fun _ => rfl
      | none =>
          have assigns : Follows function (Option.map (Stat.map function))
              (some <$> Rule.assignment) (some <$> Rule.assignment) :=
            (assignment keeps).map fun _ => rfl
          have calls : Follows function (Option.map (Stat.map function))
              (some <$> Rule.callStatement) (some <$> Rule.callStatement) :=
            (callStatement keeps).map fun _ => rfl
          intro cursor
          change (if _ then _ else if _ then _ else _ : Rule (Option Stat)).run _ =
            carried _ _ ((if _ then _ else if _ then _ else _ : Rule (Option Stat)).run cursor)
          rw [cursor.kind_map keeps, cursor.nextKind_map keeps]
          split
          · exact assigns cursor
          · split
            · exact calls cursor
            · rfl

end Nested

omit keeps in
theorem statsWithin {stat : Rule (Option Stat)}
    (nested : Follows function (Option.map (Stat.map function)) stat stat) (bound : Nat) :
    Follows function (Stat.mapAll function) (statsWithin stat bound) (statsWithin stat bound) := by
  induction bound with
  | zero => exact pure []
  | succ bound inductionHypothesis =>
      apply nested.bind
      intro found
      cases found with
      | some first =>
          apply inductionHypothesis.bind
          intro rest
          exact pure (first :: rest)
      | none => exact pure []

theorem blockEnd_map (values : Block) (after : Cursor) :
    blockEnd (Stat.mapAll function values) (after.map function) =
      carried function (Stat.mapAll function) (blockEnd values after) := by
  unfold blockEnd
  rw [after.kind_map keeps, after.current_map,
    show (after.map function).depth = after.depth from rfl]
  by_cases unread : after.depth = 0 ∧ after.kind ≠ .endOfInput
  · rw [if_pos unread, if_pos unread]
    rfl
  · rw [if_neg unread, if_neg unread]
    rfl

theorem blockOf {stats : Rule Block}
    (nested : Follows function (Stat.mapAll function) stats stats) :
    Follows function (Stat.mapAll function) (blockOf stats) (blockOf stats) := by
  intro cursor
  have inside : stats.run { cursor.map function with depth := cursor.depth + 1 } =
      carried function (Stat.mapAll function)
        (stats.run { cursor with depth := cursor.depth + 1 }) :=
    nested { cursor with depth := cursor.depth + 1 }
  rw [run_blockOf_eq_blockEnd, run_blockOf_eq_blockEnd,
    show (cursor.map function).depth = cursor.depth from rfl, inside]
  cases stats.run { cursor with depth := cursor.depth + 1 } with
  | error error after => rfl
  | ok values after => exact blockEnd_map keeps values { after with depth := after.depth - 1 }

theorem blockWithin (bound : Nat) :
    Follows function (Stat.mapAll function) (blockWithin bound) (blockWithin bound) := by
  induction bound with
  | zero => exact blockOf keeps (pure [])
  | succ bound inductionHypothesis =>
      exact blockOf keeps (statsWithin (statWith keeps inductionHypothesis) _)

/-- A block is read from changed tokens as it is from the others. -/
theorem block : Follows function (Stat.mapAll function) block block :=
  bounded (blockWithin keeps)

end Kinds

end Follows

end Rule

end Lunette
