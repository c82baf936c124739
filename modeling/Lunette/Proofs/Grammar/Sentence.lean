import Lunette.Proofs.Grammar.Phrase
import Lunette.Proofs.Reading.Program

/-!
# Sentences are the kinds of spellings

A shaped phrase is written with kinds that its grammar rule derives, and tokens whose kinds a
rule derives are a spelling of a shaped phrase.  So the sentences of the grammar are the rows
of kinds that shaped programs are written with.
-/

namespace Lunette

/-! ## Shaped phrases are derived -/

namespace Ast

open Grammar

mutual

/-- A shaped expression is written with kinds that an expression derives. -/
theorem Exp.Shaped.derives : ∀ {exp : Exp}, exp.Shaped →
    Phrase.exp.Derives (exp.written.map Slot.kind)
  | .single _, shaped => Phrase.derives_exp_single (Unary.Shaped.derives shaped)
  | .applied _ _ _, ⟨leftShaped, isBinary, rightShaped⟩ => by
      rw [Exp.written, List.map_append, List.map_cons]
      exact Phrase.derives_exp_applied (Unary.Shaped.derives leftShaped) isBinary
        (Unary.Shaped.derives rightShaped)

theorem Unary.Shaped.derives : ∀ {unary : Unary}, unary.Shaped →
    Phrase.unary.Derives (unary.written.map Slot.kind)
  | .bare _, shaped => Operand.ShapedAlone.derives shaped
  | .prefixed _ _, ⟨isUnary, shaped⟩ =>
      Phrase.derives_unary_prefixed isUnary (Operand.ShapedBehind.derives shaped)

theorem Operand.ShapedAlone.derives : ∀ {operand : Operand}, operand.ShapedAlone →
    Phrase.unary.Derives (operand.written.map Slot.kind)
  | .unary _, shaped => nomatch shaped
  | .call (.of (.term token) args), ⟨isName, _, shaped⟩ => by
      have isIdentifier : token.kind = .identifier := isName
      change Phrase.unary.Derives (token.kind :: args.written.map Slot.kind)
      rw [isIdentifier]
      exact Phrase.derives_unary_call (Args.Shaped.derives shaped)
  | .call (.of (.paren _) _), ⟨isName, _⟩ => nomatch isName
  | .primary (.term _), shaped => Phrase.derives_unary_single shaped
  | .primary (.paren inner), shaped => by
      simp only [Operand.written, Primary.written, List.cons_append, List.map_cons,
        List.map_append, List.map_nil]
      exact Phrase.derives_unary_paren (Exp.Shaped.derives shaped)

theorem Operand.ShapedBehind.derives : ∀ {operand : Operand}, operand.ShapedBehind →
    Phrase.unary.Derives (operand.written.map Slot.kind)
  | .unary _, shaped => Unary.Shaped.derives shaped
  | .call _, shaped => nomatch shaped
  | .primary _, shaped => nomatch shaped

theorem Args.Shaped.derives : ∀ {args : Args}, args.Shaped →
    Phrase.args.Derives (args.written.map Slot.kind)
  | .empty, _ => Phrase.derives_args_empty
  | .one _, shaped => by
      simp only [Args.written, List.cons_append, List.map_cons, List.map_append, List.map_nil]
      exact Phrase.derives_args_one (Exp.Shaped.derives shaped)

end

/-- What is called by a statement is written with kinds that the statement allows. -/
theorem Primary.Shaped.derives_callee {primary : Primary} (shaped : primary.Shaped)
    (isCallable : primary.IsCallable) :
    Form.Derives rule (.oneOf [.kind .identifier, parenthesized])
      (primary.written.map Slot.kind) := by
  cases primary with
  | term token =>
      have isIdentifier : token.kind = .identifier := isCallable
      change Form.Derives rule _ [token.kind]
      rw [isIdentifier]
      exact .oneOf (.head _) (.kind .identifier)
  | paren inner =>
      simp only [Primary.written, List.cons_append, List.map_cons, List.map_append, List.map_nil]
      exact .oneOf (.tail _ (.head _)) (Phrase.derives_parenthesized (Exp.Shaped.derives shaped))

mutual

/-- A shaped statement is written with kinds that a statement derives. -/
theorem Stat.Shaped.derives : ∀ {stat : Stat}, stat.Shaped →
    Phrase.stat.Derives (stat.written.map Slot.kind)
  | .declare target none, isName => by
      have isIdentifier : target.kind = .identifier := by
        simpa only [Stat.Shaped] using isName
      change Phrase.stat.Derives [.localWord, target.kind, .semicolon]
      rw [isIdentifier]
      exact Phrase.derives_stat_declare_bare
  | .declare target (some value), ⟨isName, shaped⟩ => by
      simp only [Stat.written, Stat.lead, Stat.unled, List.cons_append, List.nil_append,
        List.map_cons, List.map_append, List.map_nil, Slot.kind, isName]
      exact Phrase.derives_stat_declare shaped.derives
  | .assign target value, ⟨isName, shaped⟩ => by
      simp only [Stat.written, Stat.lead, Stat.unled, List.cons_append, List.nil_append,
        List.map_cons, List.map_append, List.map_nil, Slot.kind, isName]
      exact Phrase.derives_stat_assign shaped.derives
  | .call (.of callee args), ⟨isCallable, calleeShaped, argsShaped⟩ => by
      simp only [Stat.written, Stat.lead, Stat.unled, Call.written, List.nil_append,
        List.append_assoc, List.map_cons, List.map_append, List.map_nil]
      exact Phrase.derives_stat_call (Primary.Shaped.derives_callee calleeShaped isCallable)
        argsShaped.derives
  | .ifThen condition body, ⟨conditionShaped, bodyShaped⟩ => by
      simp only [Stat.written, Stat.lead, Stat.unled, Stat.conditionalEnd, List.cons_append,
        List.nil_append, List.append_assoc, List.map_cons, List.map_append, List.map_nil,
        Slot.kind]
      exact Phrase.derives_stat_ifThen conditionShaped.derives
        (Stat.AllShaped.derives bodyShaped)
  | .ifThenElse condition body other, ⟨conditionShaped, bodyShaped, otherShaped⟩ => by
      simp only [Stat.written, Stat.lead, Stat.unled, Stat.conditionalEnd, List.cons_append,
        List.nil_append, List.append_assoc, List.map_cons, List.map_append, List.map_nil,
        Slot.kind]
      exact Phrase.derives_stat_ifThenElse conditionShaped.derives
        (Stat.AllShaped.derives bodyShaped) (Stat.AllShaped.derives otherShaped)

theorem Stat.AllShaped.derives : ∀ {stats : List Stat}, Stat.AllShaped stats →
    Form.Derives rule block ((Stat.writtenAll stats).map Slot.kind)
  | [], _ => .done
  | stat :: rest, ⟨shaped, restShaped⟩ => by
      rw [Stat.writtenAll, List.map_append]
      exact .again (Stat.Shaped.derives shaped) (Stat.AllShaped.derives restShaped)

end

/-- The kinds that a shaped program is written with are a sentence. -/
theorem Program.Shaped.sentence {program : Program} (shaped : program.Shaped) :
    Sentence (program.written.map Slot.kind) :=
  .phrase (Stat.AllShaped.derives shaped)

end Ast

/-! ## Derived kinds are spelled -/

namespace Grammar

open Ast Form

/-- The tokens are a spelling of a phrase with the name. -/
def Phrase.Spelled : Phrase → List Token → Prop
  | .program, tokens => ∃ program, Spells Program.Shaped Program.written program tokens
  | .stat, tokens => ∃ stat, Spells Stat.Shaped Stat.written stat tokens
  | .exp, tokens => ∃ exp, Spells Exp.Shaped Exp.written exp tokens
  | .unary, tokens => ∃ unary, Spells Unary.Shaped Unary.written unary tokens
  | .args, tokens => ∃ args, Spells Args.Shaped Args.written args tokens
  | .binop, tokens => ∃ op : Token, op.kind.isBinaryOperator = true ∧ tokens = [op]

variable {tokens : List Token}

theorem spelled_binop (spans : (rule .binop).Spans Phrase.Spelled tokens) :
    Phrase.binop.Spelled tokens := by
  rcases spans_anyOf.mp spans with ⟨op, member, rfl⟩
  have isBinary : op.kind.isBinaryOperator = true := by
    revert member
    cases op.kind <;> decide
  exact ⟨op, isBinary, rfl⟩

theorem spelled_parenthesized (spans : parenthesized.Spans Phrase.Spelled tokens) :
    ∃ inner, Spells Primary.Shaped Primary.written (.paren inner) tokens := by
  simp only [parenthesized, spans_row_cons, spans_row_nil, spans_kind, spans_phrase]
    at spans
  rcases spans with ⟨_, _, ⟨opening, isOpen, rfl⟩, ⟨inside, _, ⟨inner, spells⟩,
    ⟨_, _, ⟨closing, isClose, rfl⟩, rfl, rfl⟩, rfl⟩, rfl⟩
  exact ⟨inner, .paren isOpen spells isClose⟩

theorem spelled_args (spans : (rule .args).Spans Phrase.Spelled tokens) :
    Phrase.args.Spelled tokens := by
  simp only [rule, spans_row_cons, spans_row_nil, spans_kind, spans_phrase,
    spans_optional] at spans
  rcases spans with ⟨_, _, ⟨opening, isOpen, rfl⟩, ⟨inside, _, argument,
    ⟨_, _, ⟨closing, isClose, rfl⟩, rfl, rfl⟩, rfl⟩, rfl⟩
  rcases argument with rfl | ⟨value, spells⟩
  · exact ⟨.empty, .noArgs isOpen isClose⟩
  · exact ⟨.one value, .oneArg isOpen spells isClose⟩

theorem spelled_unary (spans : (rule .unary).Spans Phrase.Spelled tokens) :
    Phrase.unary.Spelled tokens := by
  simp only [rule, spans_oneOf, List.mem_cons, List.not_mem_nil, or_false, exists_eq_or_imp,
    exists_eq_left] at spans
  rcases spans with isPrefixed | isCall | isSingle | isParen
  · simp only [spans_row_cons, spans_row_nil, spans_anyOf, spans_phrase] at isPrefixed
    rcases isPrefixed with ⟨_, _, ⟨op, member, rfl⟩, ⟨inside, _, ⟨inner, spells⟩, rfl, rfl⟩, rfl⟩
    have isUnary : op.kind.isUnaryOperator = true := by
      revert member
      cases op.kind <;> decide
    rw [List.append_nil]
    exact ⟨.prefixed op (.unary inner), .prefixed isUnary spells⟩
  · simp only [spans_row_cons, spans_row_nil, spans_kind, spans_phrase] at isCall
    rcases isCall with ⟨_, _, ⟨callee, isName, rfl⟩, ⟨inside, _, ⟨args, spells⟩, rfl, rfl⟩,
      rfl⟩
    rw [List.append_nil]
    have callSpells := (Spells.term (Or.inl isName)).call spells
    exact ⟨.bare (.call (.of (.term callee) args)), ⟨isName, callSpells.shaped⟩,
      callSpells.filled⟩
  · rcases spans_anyOf.mp isSingle with ⟨token, member, rfl⟩
    have shaped : token.kind = .identifier ∨ token.kind.isLiteral = true := by
      revert member
      cases token.kind <;> decide
    exact ⟨.bare (.primary (.term token)), shaped, .cons rfl .nil⟩
  · rcases spelled_parenthesized isParen with ⟨inner, spells⟩
    exact ⟨.bare (.primary (.paren inner)), spells.shaped, spells.filled⟩

theorem spelled_exp (spans : (rule .exp).Spans Phrase.Spelled tokens) :
    Phrase.exp.Spelled tokens := by
  simp only [rule, spans_row_cons, spans_row_nil, spans_phrase, spans_optional] at spans
  rcases spans with ⟨front, _, ⟨left, leftSpells⟩, ⟨back, _, behind, rfl, rfl⟩, rfl⟩
  rw [List.append_nil]
  rcases behind with rfl | ⟨_, _, ⟨op, isBinary, rfl⟩, ⟨last, _, ⟨right, rightSpells⟩, rfl, rfl⟩,
    rfl⟩
  · rw [List.append_nil]
    exact ⟨.single left, leftSpells.single⟩
  · rw [List.append_nil]
    exact ⟨.applied left op right, leftSpells.applied isBinary rightSpells⟩

theorem spelled_block (spans : block.Spans Phrase.Spelled tokens) :
    ∃ stats, Spells Stat.AllShaped Stat.writtenAll stats tokens := by
  rw [block, spans_repeated] at spans
  rcases spans with ⟨parts, fits, rfl⟩
  induction parts with
  | nil => exact ⟨[], trivial, .nil⟩
  | cons part parts inductionHypothesis =>
      rw [List.forall_mem_cons] at fits
      rcases fits.1 with ⟨stat, statSpells⟩
      rcases inductionHypothesis fits.2 with ⟨stats, spells⟩
      exact ⟨stat :: stats, .cons statSpells spells⟩

theorem spelled_declare
    (spans : (Form.row [.kind .localWord, .kind .identifier,
      .optional (.row [.kind .assign, .phrase .exp]), .kind .semicolon]).Spans
        Phrase.Spelled tokens) : Phrase.stat.Spelled tokens := by
  simp only [spans_row_cons, spans_row_nil, spans_kind, spans_phrase, spans_optional] at spans
  rcases spans with ⟨_, _, ⟨lead, isLocal, rfl⟩, ⟨_, _, ⟨target, isName, rfl⟩, ⟨_, _, assigned,
    ⟨_, _, ⟨closing, isSemicolon, rfl⟩, rfl, rfl⟩, rfl⟩, rfl⟩, rfl⟩
  have leadFilled : Slot.Filled [.fixed .localWord] [lead] := .cons isLocal .nil
  rcases assigned with rfl | ⟨_, _, ⟨sign, isAssign, rfl⟩, ⟨inside, _, ⟨value, spells⟩, rfl, rfl⟩,
    rfl⟩
  · exact ⟨.declare target none, .led leadFilled (.declareBare isName isSemicolon)⟩
  · rw [List.append_nil]
    exact ⟨.declare target (some value),
      .led leadFilled (.declare isName isAssign spells isSemicolon)⟩

theorem spelled_conditional
    (spans : (Form.row [.kind .ifWord, .phrase .exp, .kind .thenWord, block,
      .optional (.row [.kind .elseWord, block]), .kind .endWord, .kind .semicolon]).Spans
        Phrase.Spelled tokens) : Phrase.stat.Spelled tokens := by
  simp only [spans_row_cons, spans_row_nil, spans_kind, spans_phrase, spans_optional] at spans
  rcases spans with ⟨_, _, ⟨lead, isIf, rfl⟩, ⟨front, _, ⟨condition, spells⟩, ⟨_, _,
    ⟨word, isThen, rfl⟩, ⟨bodyTokens, _, bodySpans, ⟨_, _, branch, ⟨_, _, ⟨last, isEnd, rfl⟩,
    ⟨_, _, ⟨closing, isSemicolon, rfl⟩, rfl, rfl⟩, rfl⟩, rfl⟩, rfl⟩, rfl⟩, rfl⟩, rfl⟩
  rcases spelled_block bodySpans with ⟨body, bodySpells⟩
  have leadFilled : Slot.Filled [.fixed .ifWord] [lead] := .cons isIf .nil
  have ending := Spells.conditionalEnd isEnd isSemicolon
  rcases branch with rfl | ⟨_, _, ⟨choice, isElse, rfl⟩, ⟨otherTokens, _, otherSpans, rfl, rfl⟩,
    rfl⟩
  · have whole := Spells.ifThen spells isThen bodySpells ending
    exact ⟨.ifThen condition body, .led leadFilled whole⟩
  · rcases spelled_block otherSpans with ⟨other, otherSpells⟩
    have whole := Spells.ifThenElse spells isThen bodySpells isElse otherSpells ending
    rw [List.append_nil]
    exact ⟨.ifThenElse condition body other, .led leadFilled whole⟩

theorem spelled_callee
    (spans : (Form.oneOf [.kind .identifier, parenthesized]).Spans Phrase.Spelled tokens) :
    ∃ callee : Primary, callee.IsCallable ∧
      Spells Primary.Shaped Primary.written callee tokens := by
  simp only [spans_oneOf, List.mem_cons, List.not_mem_nil, or_false, exists_eq_or_imp,
    exists_eq_left, spans_kind] at spans
  rcases spans with ⟨name, isName, rfl⟩ | isParen
  · exact ⟨.term name, isName, .term (Or.inl isName)⟩
  · rcases spelled_parenthesized isParen with ⟨inner, spells⟩
    exact ⟨.paren inner, trivial, spells⟩

theorem spelled_stat (spans : (rule .stat).Spans Phrase.Spelled tokens) :
    Phrase.stat.Spelled tokens := by
  simp only [rule, spans_oneOf, List.mem_cons, List.not_mem_nil, or_false, exists_eq_or_imp,
    exists_eq_left] at spans
  rcases spans with isDeclaration | isConditional | isAssignment | isCall
  · exact spelled_declare isDeclaration
  · exact spelled_conditional isConditional
  · simp only [spans_row_cons, spans_row_nil, spans_kind, spans_phrase] at isAssignment
    rcases isAssignment with ⟨_, _, ⟨target, isName, rfl⟩, ⟨_, _, ⟨sign, isAssign, rfl⟩,
      ⟨inside, _, ⟨value, spells⟩, ⟨_, _, ⟨closing, isSemicolon, rfl⟩, rfl, rfl⟩, rfl⟩, rfl⟩,
      rfl⟩
    exact ⟨.assign target value, .leadless rfl (.assign isName isAssign spells isSemicolon)⟩
  · simp only [spans_row_cons, spans_row_nil, spans_kind, spans_phrase] at isCall
    rcases isCall with ⟨front, _, called, ⟨argTokens, _, ⟨args, spells⟩, ⟨_, _,
      ⟨closing, isSemicolon, rfl⟩, rfl, rfl⟩, rfl⟩, rfl⟩
    rcases spelled_callee called with ⟨callee, isCallable, calleeSpells⟩
    have callSpells := calleeSpells.call spells
    have whole : Spells Stat.Shaped Stat.unled (.call (.of callee args)) _ :=
      .callStatement isCallable callSpells isSemicolon
    rw [List.append_assoc] at whole
    exact ⟨.call (.of callee args), .leadless rfl whole⟩

/-- Tokens that fit the rule of a phrase are a spelling of it. -/
theorem spelled_of_spans (phrase : Phrase) (tokens : List Token)
    (spans : (rule phrase).Spans Phrase.Spelled tokens) : phrase.Spelled tokens := by
  cases phrase with
  | program =>
      rcases spelled_block spans with ⟨stats, spells⟩
      exact ⟨⟨stats⟩, spells.shaped, spells.filled⟩
  | stat => exact spelled_stat spans
  | exp => exact spelled_exp spans
  | unary => exact spelled_unary spans
  | args => exact spelled_args spans
  | binop => exact spelled_binop spans

/-- Tokens are a spelling of some program exactly when their kinds are a sentence. -/
theorem sentence_iff_exists_spells :
    Sentence (tokens.map Token.kind) ↔
      ∃ program, Spells Program.Shaped Program.written program tokens := by
  constructor
  · intro sentence
    exact Form.Derives.spans sentence spelled_of_spans tokens rfl
  · rintro ⟨program, spells⟩
    rw [spells.filled.map_kind]
    exact spells.shaped.sentence

end Grammar

end Lunette
