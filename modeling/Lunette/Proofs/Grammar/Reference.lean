import Lunette.Proofs.Grammar.Acceptance

/-!
# The reference grammar

The grammar as it is written down for readers has a rule for every part of a program, and its
calls are calls of any primary.  Two tokens of look-ahead do not tell all of them: a call
inside an expression is seen by a name and a parenthesis behind it, and a call statement by
the name or the parenthesis that it begins with.  The module takes the reference grammar with
the places of its calls left open, and shows that its sentences are read where all calls are
of these kinds.
-/

namespace Lunette

namespace Grammar.Reference

/-- The phrases of the reference grammar. -/
inductive Phrase where
  | block | stat | varstat | ifstat | assignstat | funcallstat
  | var | exp | binary | unary | functioncall | primary | args | binop | unop

open Form

/-- An expression in parentheses. -/
def parenthesized : Form Phrase :=
  .row [.kind .openParen, .phrase .exp, .kind .closeParen]

/-- What a statement calls where two tokens tell the call. -/
def toldCallee : Form Phrase :=
  .oneOf [.phrase .var, parenthesized]

/-- The forms that stand for calls. -/
structure Calls where
  /-- A call inside an expression. -/
  operand : Form Phrase
  /-- The call of a call statement. -/
  statement : Form Phrase

/-- Calls of any primary. -/
def Calls.any : Calls where
  operand := .phrase .functioncall
  statement := .phrase .functioncall

/-- Calls that two tokens tell: of a name inside an expression, and of a name or of an
expression in parentheses in a statement. -/
def Calls.told : Calls where
  operand := .row [.phrase .var, .phrase .args]
  statement := .row [toldCallee, .phrase .args]

/-- The rules of the reference grammar. -/
def rule (calls : Calls) : Phrase → Form Phrase
  | .block => .repeated (.phrase .stat)
  | .stat => .oneOf [.phrase .varstat, .phrase .ifstat, .phrase .assignstat, .phrase .funcallstat]
  | .varstat => .row
      [.kind .localWord, .phrase .var, .optional (.row [.kind .assign, .phrase .exp]),
       .kind .semicolon]
  | .ifstat => .row
      [.kind .ifWord, .phrase .exp, .kind .thenWord, .phrase .block,
       .optional (.row [.kind .elseWord, .phrase .block]), .kind .endWord, .kind .semicolon]
  | .assignstat => .row [.phrase .var, .kind .assign, .phrase .exp, .kind .semicolon]
  | .funcallstat => .row [calls.statement, .kind .semicolon]
  | .var => .kind .identifier
  | .exp => .phrase .binary
  | .binary => .row [.phrase .unary, .optional (.row [.phrase .binop, .phrase .unary])]
  | .unary => .oneOf [.row [.phrase .unop, .phrase .unary], calls.operand, .phrase .primary]
  | .functioncall => .row [.phrase .primary, .phrase .args]
  | .primary => .oneOf
      [.kind .nilWord, .kind .falseWord, .kind .trueWord, .kind .number, .kind .string,
       parenthesized, .phrase .var]
  | .args => .row [.kind .openParen, .optional (.phrase .exp), .kind .closeParen]
  | .binop => .anyOf
      [.plus, .minus, .star, .slash, .less, .greater, .equal, .notEqual, .andWord, .orWord]
  | .unop => .anyOf [.minus, .notWord]

/-- A sentence is what a block derives. -/
def Sentence (calls : Calls) (kinds : List Kind) : Prop :=
  Derives (rule calls) (.phrase .block) kinds

/-! ## Calls that are told are calls -/

theorem subst_phrase {N : Type} (form : Form N) : form.subst .phrase = form := by
  induction form <;> simp_all [subst]

section

open Form.Derives

variable {calls : Calls} {kinds first second : List Kind}

theorem derives_primary {form : Form Phrase}
    (member : form ∈
      [.kind .nilWord, .kind .falseWord, .kind .trueWord, .kind .number, .kind .string,
       parenthesized, .phrase .var])
    (derives : Derives (rule calls) form kinds) :
    Derives (rule calls) (.phrase .primary) kinds := by
  apply Derives.phrase
  exact .oneOf member derives

theorem derives_functioncall (callee : Derives (rule calls) (.phrase .primary) first)
    (arguments : Derives (rule calls) (.phrase .args) second) :
    Derives (rule calls) (.phrase .functioncall) (first ++ second) :=
  .phrase (callee.row_cons arguments.row_singleton)

theorem derives_parenthesized (inner : Derives (rule calls) (.phrase .exp) kinds) :
    Derives (rule calls) parenthesized (.openParen :: (kinds ++ [.closeParen])) :=
  row_kind_cons (inner.row_cons (row_kind_cons row_nil))

theorem derives_args_empty :
    Derives (rule calls) (.phrase .args) [.openParen, .closeParen] :=
  .phrase (row_kind_cons (row_cons .absent (row_kind_cons row_nil)))

theorem derives_args_one (value : Derives (rule calls) (.phrase .exp) kinds) :
    Derives (rule calls) (.phrase .args) (.openParen :: (kinds ++ [.closeParen])) :=
  .phrase (row_kind_cons (value.present.row_cons (row_kind_cons row_nil)))

theorem derives_exp_of_unary (operand : Derives (rule calls) (.phrase .unary) kinds) :
    Derives (rule calls) (.phrase .exp) kinds := by
  rw [← List.append_nil kinds]
  exact .phrase (.phrase (operand.row_cons (row_singleton .absent)))

theorem derives_exp_of_call (call : Derives (rule calls) calls.operand kinds) :
    Derives (rule calls) (.phrase .exp) kinds :=
  derives_exp_of_unary (.phrase (.oneOf (.tail _ (.head _)) call))

theorem derives_exp_of_primary (primary : Derives (rule calls) (.phrase .primary) kinds) :
    Derives (rule calls) (.phrase .exp) kinds :=
  derives_exp_of_unary (.phrase (.oneOf (.tail _ (.tail _ (.head _))) primary))

theorem sentence_of_stat (stat : Derives (rule calls) (.phrase .stat) kinds) :
    Sentence calls kinds := by
  rw [← List.append_nil kinds]
  exact .phrase (.again stat .done)

theorem sentence_of_call (call : Derives (rule calls) calls.statement kinds) :
    Sentence calls (kinds ++ [.semicolon]) := by
  have statement : Derives (rule calls) (.phrase .funcallstat) (kinds ++ [.semicolon]) :=
    .phrase (call.row_cons (row_kind_cons row_nil))
  exact sentence_of_stat (.phrase (.oneOf (.tail _ (.tail _ (.tail _ (.head _)))) statement))

theorem sentence_of_assigned (value : Derives (rule calls) (.phrase .exp) kinds) :
    Sentence calls (.identifier :: .assign :: (kinds ++ [.semicolon])) := by
  have target : Derives (rule calls) (.phrase .var) [.identifier] := .phrase (.kind .identifier)
  have statement : Derives (rule calls) (.phrase .assignstat)
      (.identifier :: .assign :: (kinds ++ [.semicolon])) :=
    .phrase (target.row_cons (row_kind_cons (value.row_cons (row_kind_cons row_nil))))
  exact sentence_of_stat (.phrase (.oneOf (.tail _ (.tail _ (.head _))) statement))

/-- A call is derived where what is called is a primary. -/
theorem derives_functioncall_of_row {callee : Form Phrase}
    (isPrimary : ∀ kinds, Derives (rule calls) callee kinds →
      Derives (rule calls) (.phrase .primary) kinds)
    (derives : Derives (rule calls) (.row [callee, .phrase .args]) kinds) :
    Derives (rule calls) (.phrase .functioncall) kinds := by
  rcases derives_row_cons_iff.mp derives with ⟨front, behind, inCallee, inBehind, rfl⟩
  exact .phrase ((isPrimary front inCallee).row_cons inBehind)

theorem derives_primary_of_var (kinds : List Kind)
    (derives : Derives (rule calls) (.phrase .var) kinds) :
    Derives (rule calls) (.phrase .primary) kinds :=
  derives_primary (by simp) derives

/-- What a statement calls where two tokens tell it is a primary. -/
theorem derives_primary_of_callee (kinds : List Kind)
    (derives : Derives (rule calls) toldCallee kinds) :
    Derives (rule calls) (.phrase .primary) kinds := by
  rcases derives_oneOf_iff.mp derives with ⟨form, member, inForm⟩
  refine derives_primary ?_ inForm
  simp only [List.mem_cons, List.not_mem_nil, or_false] at member
  rcases member with rfl | rfl <;> simp

end

/-- A sentence with calls that are told is a sentence with any calls. -/
theorem Sentence.any_of_told {kinds : List Kind} (sentence : Sentence .told kinds) :
    Sentence .any kinds := by
  have simulates : ∀ name kinds,
      Derives (rule .any) ((rule .told name).subst .phrase) kinds →
        Derives (rule .any) (.phrase name) kinds := by
    intro name kinds derives
    rw [subst_phrase] at derives
    cases name with
    | funcallstat =>
        rcases derives_row_cons_iff.mp derives with ⟨front, back, inCall, inBack, rfl⟩
        have call := derives_functioncall_of_row derives_primary_of_callee inCall
        exact .phrase (call.row_cons inBack)
    | unary =>
        rcases derives_oneOf_iff.mp derives with ⟨form, member, inForm⟩
        simp only [List.mem_cons, List.not_mem_nil, or_false] at member
        rcases member with rfl | rfl | rfl
        · exact .phrase (.oneOf (.head _) inForm)
        · have call := derives_functioncall_of_row derives_primary_of_var inForm
          exact .phrase (.oneOf (.tail _ (.head _)) call)
        · exact .phrase (.oneOf (.tail _ (.tail _ (.head _))) inForm)
    | _ => exact .phrase derives
  have simulated := Derives.subst simulates sentence
  rwa [subst_phrase] at simulated

/-! ## Sentences with told calls are read -/

/-- A primary in the grammar of reading. -/
def primaryImage : Form Grammar.Phrase :=
  .oneOf
    [.kind .nilWord, .kind .falseWord, .kind .trueWord, .kind .number, .kind .string,
     Grammar.parenthesized, .kind .identifier]

/-- What stands for a phrase of the reference grammar in the grammar of reading. -/
def image : Phrase → Form Grammar.Phrase
  | .block => block
  | .stat => .phrase .stat
  | .varstat => .row [.kind .localWord, .kind .identifier,
      .optional (.row [.kind .assign, .phrase .exp]), .kind .semicolon]
  | .ifstat => .row [.kind .ifWord, .phrase .exp, .kind .thenWord, block,
      .optional (.row [.kind .elseWord, block]), .kind .endWord, .kind .semicolon]
  | .assignstat => .row [.kind .identifier, .kind .assign, .phrase .exp, .kind .semicolon]
  | .funcallstat => .row [.row [.oneOf [.kind .identifier, Grammar.parenthesized], .phrase .args],
      .kind .semicolon]
  | .var => .kind .identifier
  | .exp => .phrase .exp
  | .binary => .row [.phrase .unary, .optional (.row [.phrase .binop, .phrase .unary])]
  | .unary => .phrase .unary
  | .functioncall => .row [primaryImage, .phrase .args]
  | .primary => primaryImage
  | .args => .phrase .args
  | .binop => .phrase .binop
  | .unop => .anyOf [.minus, .notWord]

theorem derives_stat_of_image {kinds : List Kind}
    (derives : Derives Grammar.rule ((rule .told .stat).subst image) kinds) :
    Grammar.Phrase.stat.Derives kinds := by
  rcases derives_oneOf_iff.mp
    (show Derives Grammar.rule (.oneOf [image .varstat, image .ifstat, image .assignstat,
      image .funcallstat]) kinds from derives) with ⟨form, member, inForm⟩
  simp only [List.mem_cons, List.not_mem_nil, or_false] at member
  rcases member with rfl | rfl | rfl | rfl
  · exact .phrase (.oneOf (.head _) inForm)
  · exact .phrase (.oneOf (.tail _ (.head _)) inForm)
  · exact .phrase (.oneOf (.tail _ (.tail _ (.head _))) inForm)
  -- The call and the semicolon are two parts here, and one row in the grammar of reading.
  · rcases derives_row_cons_iff.mp inForm with ⟨call, back, inCall, inBack, rfl⟩
    exact .phrase (.oneOf (.tail _ (.tail _ (.tail _ (.head _)))) (inCall.row_append inBack))

theorem derives_unary_of_primaryImage {kinds : List Kind}
    (derives : Derives Grammar.rule primaryImage kinds) :
    Grammar.Phrase.unary.Derives kinds := by
  have single : ∀ {own : Kind} {kinds : List Kind},
      own = .identifier ∨ own.isLiteral = true → Derives Grammar.rule (.kind own) kinds →
        Grammar.Phrase.unary.Derives kinds := by
    intro own kinds isSingle derives
    cases derives
    exact Grammar.Phrase.derives_unary_single isSingle
  rcases derives_oneOf_iff.mp derives with ⟨form, member, inForm⟩
  simp only [List.mem_cons, List.not_mem_nil, or_false] at member
  rcases member with rfl | rfl | rfl | rfl | rfl | rfl | rfl
  · exact single (Or.inr rfl) inForm
  · exact single (Or.inr rfl) inForm
  · exact single (Or.inr rfl) inForm
  · exact single (Or.inr rfl) inForm
  · exact single (Or.inr rfl) inForm
  · exact .phrase (.oneOf (.tail _ (.tail _ (.tail _ (.head _)))) inForm)
  · exact single (Or.inl rfl) inForm

theorem derives_unary_of_image {kinds : List Kind}
    (derives : Derives Grammar.rule ((rule .told .unary).subst image) kinds) :
    Grammar.Phrase.unary.Derives kinds := by
  rcases derives_oneOf_iff.mp
    (show Derives Grammar.rule (.oneOf [.row [.anyOf [.minus, .notWord], .phrase .unary],
      .row [.kind .identifier, .phrase .args], primaryImage]) kinds from derives) with
    ⟨form, member, inForm⟩
  simp only [List.mem_cons, List.not_mem_nil, or_false] at member
  rcases member with rfl | rfl | rfl
  · exact .phrase (.oneOf (.head _) inForm)
  · exact .phrase (.oneOf (.tail _ (.head _)) inForm)
  · exact derives_unary_of_primaryImage inForm

/-- What a rule with told calls derives is derived by what stands for its phrase. -/
theorem derives_image (name : Phrase) (kinds : List Kind)
    (derives : Derives Grammar.rule ((rule .told name).subst image) kinds) :
    Derives Grammar.rule (image name) kinds := by
  cases name with
  -- With the images put in, these rules are the image of their phrase or the rule for it.
  | block | varstat | ifstat | assignstat | funcallstat | var | binary | functioncall | primary
  | unop => exact derives
  | exp | args | binop => exact .phrase derives
  | stat => exact derives_stat_of_image derives
  | unary => exact derives_unary_of_image derives

/-- A sentence with calls that are told is a sentence of the grammar of reading. -/
theorem Sentence.sentence {kinds : List Kind} (sentence : Sentence .told kinds) :
    Grammar.Sentence kinds :=
  .phrase (Derives.subst derives_image sentence)

end Grammar.Reference

namespace Ast.Program

open Grammar

/-- Tokens that the reference grammar derives with calls that two tokens tell, followed by an
end marker, are read as a program, and the grammar derives them with any calls too. -/
theorem exists_ofTokens_of_told {tokens : List Token} {kinds : List Kind}
    (sentence : Reference.Sentence .told kinds)
    (closed : tokens.map Token.kind = kinds ++ [.endOfInput]) :
    Reference.Sentence .any kinds ∧ ∃ program, ofTokens tokens = .ok program := by
  have isSentence := sentence.sentence
  have isClosed := ClosedTokens.exists_ofList?_iff Sentence |>.mpr
    ⟨kinds, isSentence.endOfInput_notMem, isSentence, closed⟩
  exact ⟨sentence.any_of_told, exists_ofTokens_eq_ok_iff.mpr isClosed⟩

/-- The tokens of `(f)(g(1));`, with a call of either kind that is told. -/
def toldCalls : List Token :=
  [⟨.openParen, "(".toList, ⟨0, 1, 1⟩⟩, ⟨.identifier, "f".toList, ⟨1, 1, 2⟩⟩,
   ⟨.closeParen, ")".toList, ⟨2, 1, 3⟩⟩, ⟨.openParen, "(".toList, ⟨3, 1, 4⟩⟩,
   ⟨.identifier, "g".toList, ⟨4, 1, 5⟩⟩, ⟨.openParen, "(".toList, ⟨5, 1, 6⟩⟩,
   ⟨.number, "1".toList, ⟨6, 1, 7⟩⟩, ⟨.closeParen, ")".toList, ⟨7, 1, 8⟩⟩,
   ⟨.closeParen, ")".toList, ⟨8, 1, 9⟩⟩, ⟨.semicolon, ";".toList, ⟨9, 1, 10⟩⟩,
   ⟨.endOfInput, [], ⟨10, 1, 11⟩⟩]

theorem exists_ofTokens_toldCalls :
    Reference.Sentence .any
        [.openParen, .identifier, .closeParen, .openParen, .identifier, .openParen, .number,
         .closeParen, .closeParen, .semicolon] ∧
      ∃ program, ofTokens toldCalls = .ok program := by
  have called : Form.Derives (Reference.rule .told) (.phrase .var) [.identifier] :=
    .phrase (.kind .identifier)
  have number : Form.Derives (Reference.rule .told) (.phrase .primary) [.number] :=
    Reference.derives_primary (by simp) (.kind .number)
  have operand : Form.Derives (Reference.rule .told) Reference.Calls.told.operand
      [.identifier, .openParen, .number, .closeParen] :=
    called.row_cons (Reference.derives_args_one
      (Reference.derives_exp_of_primary number)).row_singleton
  have name := Reference.derives_exp_of_primary (Reference.derives_primary_of_var _ called)
  have callee : Form.Derives (Reference.rule .told) Reference.toldCallee
      [.openParen, .identifier, .closeParen] :=
    .oneOf (.tail _ (.head _)) (Reference.derives_parenthesized name)
  have statement : Form.Derives (Reference.rule .told) Reference.Calls.told.statement
      [.openParen, .identifier, .closeParen, .openParen, .identifier, .openParen, .number,
       .closeParen, .closeParen] :=
    callee.row_cons
      (Reference.derives_args_one (Reference.derives_exp_of_call operand)).row_singleton
  exact exists_ofTokens_of_told (Reference.sentence_of_call statement) rfl

/-- The tokens of `nil();`, a statement that calls a literal. -/
def literalCall : List Token :=
  [⟨.nilWord, "nil".toList, ⟨0, 1, 1⟩⟩, ⟨.openParen, "(".toList, ⟨3, 1, 4⟩⟩,
   ⟨.closeParen, ")".toList, ⟨4, 1, 5⟩⟩, ⟨.semicolon, ";".toList, ⟨5, 1, 6⟩⟩,
   ⟨.endOfInput, [], ⟨6, 1, 7⟩⟩]

/-- The tokens of `x = (f)();`, where an expression in parentheses is called inside another. -/
def nestedCall : List Token :=
  [⟨.identifier, "x".toList, ⟨0, 1, 1⟩⟩, ⟨.assign, "=".toList, ⟨2, 1, 3⟩⟩,
   ⟨.openParen, "(".toList, ⟨4, 1, 5⟩⟩, ⟨.identifier, "f".toList, ⟨5, 1, 6⟩⟩,
   ⟨.closeParen, ")".toList, ⟨6, 1, 7⟩⟩, ⟨.openParen, "(".toList, ⟨7, 1, 8⟩⟩,
   ⟨.closeParen, ")".toList, ⟨8, 1, 9⟩⟩, ⟨.semicolon, ";".toList, ⟨9, 1, 10⟩⟩,
   ⟨.endOfInput, [], ⟨10, 1, 11⟩⟩]

/-- Calls that two tokens do not tell are derived by the grammar, and are not read. -/
theorem not_ofTokens_of_any :
    (Reference.Sentence .any [.nilWord, .openParen, .closeParen, .semicolon] ∧
      literalCall.map Token.kind =
        [.nilWord, .openParen, .closeParen, .semicolon] ++ [.endOfInput] ∧
      ¬ ∃ program, ofTokens literalCall = .ok program) ∧
    Reference.Sentence .any
        [.identifier, .assign, .openParen, .identifier, .closeParen, .openParen, .closeParen,
         .semicolon] ∧
      nestedCall.map Token.kind =
        [.identifier, .assign, .openParen, .identifier, .closeParen, .openParen, .closeParen,
         .semicolon] ++ [.endOfInput] ∧
      ¬ ∃ program, ofTokens nestedCall = .ok program := by
  have literal : Form.Derives (Reference.rule .any) (.phrase .primary) [.nilWord] :=
    Reference.derives_primary (by simp) (.kind .nilWord)
  have name : Form.Derives (Reference.rule .any) (.phrase .primary) [.identifier] :=
    Reference.derives_primary_of_var _ (.phrase (.kind .identifier))
  have callee := Reference.derives_primary (by simp)
    (Reference.derives_parenthesized (Reference.derives_exp_of_primary name))
  have calling := Reference.derives_functioncall callee Reference.derives_args_empty
  refine ⟨⟨?_, rfl, ?_⟩, ?_, rfl, ?_⟩
  · exact Reference.sentence_of_call
      (Reference.derives_functioncall literal Reference.derives_args_empty)
  · rintro ⟨program, readEq⟩
    cases readEq
  · exact Reference.sentence_of_assigned (Reference.derives_exp_of_call calling)
  · rintro ⟨program, readEq⟩
    cases readEq

end Ast.Program

end Lunette
