import Lunette.Proofs.Phrase.Written

/-!
# The shape of phrases

The types of trees leave some freedom that the grammar does not: any token may be taken as an
operator or a name, a prefix operator may stand in front of a call or of a single token
directly, and any operand may be called.  A phrase is shaped when it uses none of that
freedom.  In the written form of a shaped phrase the kept tokens can be told by their kinds.
-/

namespace Lunette

namespace Kind

/-- The kinds of tokens that a tree keeps: names, literals and operators. -/
def isKept (kind : Kind) : Bool :=
  kind = .identifier || kind.isLiteral || kind.isBinaryOperator || kind.isUnaryOperator

/-- The kinds of tokens that an expression can begin with. -/
def startsExp (kind : Kind) : Bool :=
  kind = .identifier || kind.isLiteral || kind.isUnaryOperator || kind = .openParen

theorem isKept_of_isUnaryOperator {kind : Kind} (isUnary : kind.isUnaryOperator = true) :
    kind.isKept = true := by
  simp [isKept, isUnary]

theorem isKept_of_isBinaryOperator {kind : Kind} (isBinary : kind.isBinaryOperator = true) :
    kind.isKept = true := by
  simp [isKept, isBinary]

theorem isUnaryOperator_eq_false_of_isLiteral {kind : Kind} (isLiteral : kind.isLiteral = true) :
    kind.isUnaryOperator = false := by
  cases kind <;> first | rfl | cases isLiteral

end Kind

namespace Ast

/-! ## Shaped expressions -/

/-- Whether the operand is a name by itself. -/
def Primary.IsName : Primary → Prop
  | .term token => token.kind = .identifier
  | .paren _ => False

/-- Whether the operand can be called where a statement begins: a name or an expression in
parentheses. -/
def Primary.IsCallable : Primary → Prop
  | .term token => token.kind = .identifier
  | .paren _ => True

/-- What is called. -/
def Call.callee : Call → Primary
  | .of callee _ => callee

mutual

/-- The two operands of an expression are shaped and its operator is a binary one. -/
def Exp.Shaped : Exp → Prop
  | .single left => left.Shaped
  | .applied left op right => left.Shaped ∧ op.kind.isBinaryOperator = true ∧ right.Shaped

/-- A prefix operator stands in front of an operand that may have one itself, and an operand
without one is a call or a single one. -/
def Unary.Shaped : Unary → Prop
  | .bare operand => operand.ShapedAlone
  | .prefixed op operand => op.kind.isUnaryOperator = true ∧ operand.ShapedBehind

/-- An operand without a prefix operator is the call of a name or a single operand. -/
def Operand.ShapedAlone : Operand → Prop
  | .unary _ => False
  | .call inner => inner.callee.IsName ∧ inner.Shaped
  | .primary inner => inner.Shaped

/-- A prefix operator stands in front of an operand that may have one itself. -/
def Operand.ShapedBehind : Operand → Prop
  | .unary inner => inner.Shaped
  | .call _ | .primary _ => False

/-- What is called and the arguments are shaped. -/
def Call.Shaped : Call → Prop
  | .of callee args => callee.Shaped ∧ args.Shaped

/-- A single operand is a name, a literal or an expression in parentheses. -/
def Primary.Shaped : Primary → Prop
  | .term token => token.kind = .identifier ∨ token.kind.isLiteral = true
  | .paren inner => inner.Shaped

/-- The argument, if there is one, is shaped. -/
def Args.Shaped : Args → Prop
  | .empty => True
  | .one value => value.Shaped

end

/-! ## Shaped statements -/

mutual

/-- Targets are names, only what can be called where a statement begins is called there, and
all parts are shaped. -/
def Stat.Shaped : Stat → Prop
  | .declare target none => target.kind = .identifier
  | .declare target (some value) | .assign target value =>
      target.kind = .identifier ∧ value.Shaped
  | .call inner => inner.callee.IsCallable ∧ inner.Shaped
  | .ifThen condition body => condition.Shaped ∧ Stat.AllShaped body
  | .ifThenElse condition body other =>
      condition.Shaped ∧ Stat.AllShaped body ∧ Stat.AllShaped other

/-- Statements in a row are shaped. -/
def Stat.AllShaped : List Stat → Prop
  | [] => True
  | stat :: rest => stat.Shaped ∧ Stat.AllShaped rest

end

/-- The statements of the program are shaped. -/
def Program.Shaped (program : Program) : Prop :=
  Stat.AllShaped program.block

end Ast

/-! ## Kept tokens have kinds of their own -/

namespace Slot

/-- A slot is proper when the kind of its token says whether the token is kept. -/
def Proper : Slot → Prop
  | .fixed kind => kind.isKept = false
  | .kept token => token.kind.isKept = true

/-- All slots of the row are proper. -/
def AllProper (slots : List Slot) : Prop :=
  ∀ slot ∈ slots, slot.Proper

@[simp]
theorem allProper_nil : AllProper [] := by
  simp [AllProper]

@[simp]
theorem allProper_cons {slot : Slot} {slots : List Slot} :
    AllProper (slot :: slots) ↔ slot.Proper ∧ AllProper slots := by
  simp [AllProper]

@[simp]
theorem allProper_append {first second : List Slot} :
    AllProper (first ++ second) ↔ AllProper first ∧ AllProper second := by
  simp [AllProper, or_imp, forall_and]

/-- Among the tokens that fill proper slots, the kinds pick out the kept ones. -/
theorem Filled.filter_isKept {slots : List Slot} {tokens : List Token}
    (filled : Filled slots tokens) (proper : AllProper slots) :
    tokens.filter (·.kind.isKept) = slots.filterMap token? := by
  induction filled with
  | nil => rfl
  | @cons slot token slots tokens takes _ inductionHypothesis =>
      rcases allProper_cons.mp proper with ⟨slotProper, restProper⟩
      cases slot with
      | fixed kind =>
          have notKept : token.kind.isKept = false := takes.kind_eq ▸ slotProper
          rw [List.filter_cons, notKept, inductionHypothesis restProper]
          rfl
      | kept own =>
          have isKept : token.kind.isKept = true := takes.kind_eq ▸ slotProper
          rw [List.filter_cons, isKept, inductionHypothesis restProper]
          cases takes
          rfl

end Slot

namespace Ast

open Slot (AllProper)

mutual

theorem Exp.Shaped.allProper : ∀ {exp : Exp}, exp.Shaped → AllProper exp.written
  | .single _, shaped => Unary.Shaped.allProper shaped
  | .applied _ _ _, ⟨leftShaped, isBinary, rightShaped⟩ => by
      simp only [Exp.written, Slot.allProper_append, Slot.allProper_cons]
      exact ⟨Unary.Shaped.allProper leftShaped, Kind.isKept_of_isBinaryOperator isBinary,
        Unary.Shaped.allProper rightShaped⟩

theorem Unary.Shaped.allProper : ∀ {unary : Unary}, unary.Shaped → AllProper unary.written
  | .bare _, shaped => Operand.ShapedAlone.allProper shaped
  | .prefixed _ _, ⟨isUnary, shaped⟩ =>
      Slot.allProper_cons.mpr
        ⟨Kind.isKept_of_isUnaryOperator isUnary, Operand.ShapedBehind.allProper shaped⟩

theorem Operand.ShapedAlone.allProper : ∀ {operand : Operand},
    operand.ShapedAlone → AllProper operand.written
  | .unary _, shaped => nomatch shaped
  | .call _, ⟨_, shaped⟩ => Call.Shaped.allProper shaped
  | .primary _, shaped => Primary.Shaped.allProper shaped

theorem Operand.ShapedBehind.allProper : ∀ {operand : Operand},
    operand.ShapedBehind → AllProper operand.written
  | .unary _, shaped => Unary.Shaped.allProper shaped
  | .call _, shaped => nomatch shaped
  | .primary _, shaped => nomatch shaped

theorem Call.Shaped.allProper : ∀ {call : Call}, call.Shaped → AllProper call.written
  | .of _ _, ⟨calleeShaped, argsShaped⟩ =>
      Slot.allProper_append.mpr
        ⟨Primary.Shaped.allProper calleeShaped, Args.Shaped.allProper argsShaped⟩

theorem Primary.Shaped.allProper : ∀ {primary : Primary},
    primary.Shaped → AllProper primary.written
  | .term _, shaped => by
      simp only [Primary.written, Slot.allProper_cons, Slot.allProper_nil, and_true]
      rcases shaped with isName | isLiteral
      · simp [Slot.Proper, Kind.isKept, isName]
      · simp [Slot.Proper, Kind.isKept, isLiteral]
  | .paren _, shaped => by
      simp only [Primary.written, Slot.allProper_cons, Slot.allProper_append, List.cons_append]
      exact ⟨rfl, Exp.Shaped.allProper shaped, rfl, Slot.allProper_nil⟩

theorem Args.Shaped.allProper : ∀ {args : Args}, args.Shaped → AllProper args.written
  | .empty, _ => by
      simp only [Args.written, Slot.allProper_cons]
      exact ⟨rfl, rfl, Slot.allProper_nil⟩
  | .one _, shaped => by
      simp only [Args.written, Slot.allProper_cons, Slot.allProper_append, List.cons_append]
      exact ⟨rfl, Exp.Shaped.allProper shaped, rfl, Slot.allProper_nil⟩

end

theorem Stat.allProper_lead (stat : Stat) : AllProper stat.lead := by
  cases stat <;> simp [Stat.lead, Slot.Proper] <;> rfl

theorem Stat.allProper_conditionalEnd : AllProper Stat.conditionalEnd := by
  simp only [Stat.conditionalEnd, Slot.allProper_cons]
  exact ⟨rfl, rfl, Slot.allProper_nil⟩

/-- A name with a value, as it is declared or assigned, has proper slots. -/
private theorem allProper_valued {target : Token} {value : Exp}
    (isName : target.kind = .identifier) (shaped : value.Shaped) :
    AllProper (.kept target :: .fixed .assign :: value.written ++ [.fixed .semicolon]) := by
  simp only [List.cons_append, Slot.allProper_cons, Slot.allProper_append]
  exact ⟨by simp [Slot.Proper, Kind.isKept, isName], rfl, shaped.allProper, rfl,
    Slot.allProper_nil⟩

/-- A call that stands alone has proper slots, whatever is called. -/
theorem Stat.allProper_call {inner : Call} (shaped : inner.Shaped) :
    AllProper (Stat.call inner).unled := by
  simp only [Stat.unled, Slot.allProper_append, Slot.allProper_cons]
  exact ⟨shaped.allProper, rfl, Slot.allProper_nil⟩

/-- A name has a proper slot. -/
theorem allProper_name {token : Token} (isName : token.kind = .identifier) :
    AllProper [.kept token] := by
  simp [Slot.Proper, Kind.isKept, isName]

mutual

theorem Stat.Shaped.allProper : ∀ {stat : Stat}, stat.Shaped → AllProper stat.unled
  | .declare _ none, isName => by
      simp only [Stat.unled, Slot.allProper_cons]
      exact ⟨by simp_all [Stat.Shaped, Slot.Proper, Kind.isKept], rfl, Slot.allProper_nil⟩
  | .declare _ (some _), ⟨isName, shaped⟩ => allProper_valued isName shaped
  | .assign _ _, ⟨isName, shaped⟩ => allProper_valued isName shaped
  | .call _, ⟨_, shaped⟩ => Stat.allProper_call shaped
  | .ifThen _ _, ⟨conditionShaped, bodyShaped⟩ => by
      simp only [Stat.unled, Slot.allProper_append, Slot.allProper_cons]
      exact ⟨⟨conditionShaped.allProper, rfl, Stat.AllShaped.allProper bodyShaped⟩,
        Stat.allProper_conditionalEnd⟩
  | .ifThenElse _ _ _, ⟨conditionShaped, bodyShaped, otherShaped⟩ => by
      simp only [Stat.unled, Slot.allProper_append, Slot.allProper_cons]
      exact ⟨⟨⟨conditionShaped.allProper, rfl, Stat.AllShaped.allProper bodyShaped⟩,
        rfl, Stat.AllShaped.allProper otherShaped⟩, Stat.allProper_conditionalEnd⟩

theorem Stat.AllShaped.allProper : ∀ {stats : List Stat},
    Stat.AllShaped stats → AllProper (Stat.writtenAll stats)
  | [], _ => Slot.allProper_nil
  | stat :: _, ⟨shaped, restShaped⟩ =>
      Slot.allProper_append.mpr
        ⟨Slot.allProper_append.mpr ⟨stat.allProper_lead, Stat.Shaped.allProper shaped⟩,
          Stat.AllShaped.allProper restShaped⟩

end

/-! ## What an expression begins with -/

theorem Primary.Shaped.head_written {primary : Primary} (shaped : primary.Shaped) :
    ∃ slot rest, primary.written = slot :: rest ∧
      (slot.kind = .identifier ∨ slot.kind.isLiteral = true ∨ slot.kind = .openParen) := by
  cases primary with
  | term token => exact ⟨_, _, rfl, shaped.imp_right Or.inl⟩
  | paren inner => exact ⟨_, _, rfl, Or.inr (Or.inr rfl)⟩

theorem Operand.ShapedAlone.head_written {operand : Operand} (shaped : operand.ShapedAlone) :
    ∃ slot rest, operand.written = slot :: rest ∧
      (slot.kind = .identifier ∨ slot.kind.isLiteral = true ∨ slot.kind = .openParen) := by
  cases operand with
  | unary inner => cases shaped
  | primary inner => exact Primary.Shaped.head_written shaped
  | call inner =>
      cases inner with
      | of callee args =>
          rcases shaped.2.1.head_written with ⟨slot, rest, writtenEq, starts⟩
          exact ⟨slot, rest ++ args.written,
            by simp [Operand.written, Call.written, writtenEq], starts⟩

theorem Unary.Shaped.head_written {unary : Unary} (shaped : unary.Shaped) :
    ∃ slot rest, unary.written = slot :: rest ∧ slot.kind.startsExp = true := by
  cases unary with
  | bare operand =>
      rcases Operand.ShapedAlone.head_written shaped with ⟨slot, rest, writtenEq, starts⟩
      have startsExp : slot.kind.startsExp = true := by
        rcases starts with isName | isLiteral | isOpen
        · simp [Kind.startsExp, isName]
        · simp [Kind.startsExp, isLiteral]
        · simp [Kind.startsExp, isOpen]
      exact ⟨slot, rest, writtenEq, startsExp⟩
  | prefixed op operand =>
      exact ⟨_, _, rfl, by simp [Kind.startsExp, Slot.kind, shaped.1]⟩

/-- An expression begins with a token that can begin one. -/
theorem Exp.Shaped.head_written {exp : Exp} (shaped : exp.Shaped) :
    ∃ slot rest, exp.written = slot :: rest ∧ slot.kind.startsExp = true := by
  cases exp with
  | single left => exact Unary.Shaped.head_written shaped
  | applied left op right =>
      rcases Unary.Shaped.head_written shaped.1 with ⟨slot, rest, writtenEq, starts⟩
      exact ⟨slot, rest ++ .kept op :: right.written,
        by simp [Exp.written, writtenEq], starts⟩

end Ast

end Lunette
