import Lunette.Proofs.Grammar.Form

/-!
# The grammar of programs

The grammar in extended form, over token kinds alone.  Nothing here refers to the rules that
read tokens: a sentence is what the grammar derives, and the end marker is in none.
-/

namespace Lunette

namespace Grammar

/-- The phrases of the grammar. -/
inductive Phrase where
  | program | stat | exp | unary | args | binop

open Form

/-- Statements in a row. -/
def block : Form Phrase :=
  .repeated (.phrase .stat)

/-- An expression in parentheses. -/
def parenthesized : Form Phrase :=
  .row [.kind .openParen, .phrase .exp, .kind .closeParen]

/-- The rules of the grammar. -/
def rule : Phrase → Form Phrase
  | .program => block
  | .stat => .oneOf
      [.row [.kind .localWord, .kind .identifier,
        .optional (.row [.kind .assign, .phrase .exp]), .kind .semicolon],
       .row [.kind .ifWord, .phrase .exp, .kind .thenWord, block,
        .optional (.row [.kind .elseWord, block]), .kind .endWord, .kind .semicolon],
       .row [.kind .identifier, .kind .assign, .phrase .exp, .kind .semicolon],
       .row [.oneOf [.kind .identifier, parenthesized], .phrase .args, .kind .semicolon]]
  | .exp => .row [.phrase .unary, .optional (.row [.phrase .binop, .phrase .unary])]
  | .unary => .oneOf
      [.row [.anyOf [.minus, .notWord], .phrase .unary],
       .row [.kind .identifier, .phrase .args],
       .anyOf [.nilWord, .falseWord, .trueWord, .number, .string, .identifier],
       parenthesized]
  | .args => .row [.kind .openParen, .optional (.phrase .exp), .kind .closeParen]
  | .binop => .anyOf
      [.plus, .minus, .star, .slash, .less, .greater, .equal, .notEqual, .andWord, .orWord]

/-- The phrase derives the row of kinds. -/
abbrev Phrase.Derives (phrase : Phrase) (kinds : List Kind) : Prop :=
  Form.Derives rule (.phrase phrase) kinds

/-- A sentence is what a program derives. -/
def Sentence (kinds : List Kind) : Prop :=
  Phrase.program.Derives kinds

/-- The end marker is in no sentence. -/
theorem Sentence.endOfInput_notMem {kinds : List Kind} (sentence : Sentence kinds) :
    Kind.endOfInput ∉ kinds := by
  intro member
  rcases sentence.mem_kinds member with inForm | ⟨name, inRule⟩
  · cases inForm
  · cases name <;> revert inRule <;> decide

/-! ### What phrases derive -/

namespace Phrase

open Form.Derives

variable {kinds first second : List Kind}

theorem derives_binop {op : Kind} (isBinary : op.isBinaryOperator = true) :
    binop.Derives [op] := by
  apply Form.Derives.phrase
  apply Form.Derives.anyOf
  cases op <;> first | decide | cases isBinary

theorem derives_exp_single (operand : unary.Derives kinds) : exp.Derives kinds := by
  apply Form.Derives.phrase
  rw [← List.append_nil kinds]
  exact operand.row_cons (row_singleton absent)

theorem derives_exp_applied {op : Kind} (left : unary.Derives first)
    (isBinary : op.isBinaryOperator = true) (right : unary.Derives second) :
    exp.Derives (first ++ op :: second) := by
  have behind := (derives_binop isBinary).row_cons (row_singleton right)
  exact (left.row_cons (row_singleton behind.present)).phrase

theorem derives_unary_prefixed {op : Kind} (isUnary : op.isUnaryOperator = true)
    (inner : unary.Derives kinds) : unary.Derives (op :: kinds) := by
  apply Form.Derives.phrase
  apply Form.Derives.oneOf (.head _)
  have prefixes : op ∈ [Kind.minus, .notWord] := by
    cases op <;> first | decide | cases isUnary
  exact (Form.Derives.anyOf prefixes).row_cons (row_singleton inner)

theorem derives_unary_call (arguments : args.Derives kinds) :
    unary.Derives (.identifier :: kinds) := by
  apply Form.Derives.phrase
  apply Form.Derives.oneOf (.tail _ (.head _))
  exact row_kind_cons (row_singleton arguments)

theorem derives_unary_single {kind : Kind}
    (isSingle : kind = .identifier ∨ kind.isLiteral = true) : unary.Derives [kind] := by
  apply Form.Derives.phrase
  apply Form.Derives.oneOf (.tail _ (.tail _ (.head _)))
  apply Form.Derives.anyOf
  rcases isSingle with rfl | isLiteral
  · decide
  · cases kind <;> first | decide | cases isLiteral

theorem derives_parenthesized (inner : exp.Derives kinds) :
    Form.Derives rule parenthesized (.openParen :: (kinds ++ [.closeParen])) :=
  row_kind_cons (inner.row_cons (row_kind_cons row_nil))

theorem derives_unary_paren (inner : exp.Derives kinds) :
    unary.Derives (.openParen :: (kinds ++ [.closeParen])) := by
  apply Form.Derives.phrase
  apply Form.Derives.oneOf (.tail _ (.tail _ (.tail _ (.head _))))
  exact derives_parenthesized inner

theorem derives_args_empty : args.Derives [.openParen, .closeParen] :=
  phrase (row_kind_cons (row_cons absent (row_kind_cons row_nil)))

theorem derives_args_one (value : exp.Derives kinds) :
    args.Derives (.openParen :: (kinds ++ [.closeParen])) :=
  phrase (row_kind_cons (value.present.row_cons (row_kind_cons row_nil)))

theorem derives_stat_declare_bare : stat.Derives [.localWord, .identifier, .semicolon] := by
  apply Form.Derives.phrase
  apply Form.Derives.oneOf (.head _)
  exact row_kind_cons (row_kind_cons (row_cons absent (row_kind_cons row_nil)))

theorem derives_stat_declare (value : exp.Derives kinds) :
    stat.Derives (.localWord :: .identifier :: .assign :: (kinds ++ [.semicolon])) := by
  apply Form.Derives.phrase
  apply Form.Derives.oneOf (.head _)
  have assigned : Form.Derives rule (.row [.kind .assign, .phrase .exp]) (.assign :: kinds) :=
    row_kind_cons (row_singleton value)
  exact row_kind_cons (row_kind_cons (assigned.present.row_cons (row_kind_cons row_nil)))

theorem derives_stat_assign (value : exp.Derives kinds) :
    stat.Derives (.identifier :: .assign :: (kinds ++ [.semicolon])) := by
  apply Form.Derives.phrase
  apply Form.Derives.oneOf (.tail _ (.tail _ (.head _)))
  exact row_kind_cons (row_kind_cons (value.row_cons (row_kind_cons row_nil)))

theorem derives_stat_call {callee : List Kind}
    (called : Form.Derives rule (.oneOf [.kind .identifier, parenthesized]) callee)
    (arguments : args.Derives kinds) : stat.Derives (callee ++ (kinds ++ [.semicolon])) := by
  apply Form.Derives.phrase
  apply Form.Derives.oneOf (.tail _ (.tail _ (.tail _ (.head _))))
  exact called.row_cons (arguments.row_cons (row_kind_cons row_nil))

theorem derives_conditionalEnd :
    Form.Derives rule (.row [.kind .endWord, .kind .semicolon]) [.endWord, .semicolon] :=
  row_kind_cons (row_kind_cons row_nil)

theorem derives_stat_ifThen (condition : exp.Derives first)
    (body : Form.Derives rule block second) :
    stat.Derives (.ifWord :: (first ++ .thenWord :: (second ++ [.endWord, .semicolon]))) := by
  apply Form.Derives.phrase
  apply Form.Derives.oneOf (.tail _ (.head _))
  exact row_kind_cons
    (condition.row_cons (row_kind_cons (body.row_cons (row_cons absent derives_conditionalEnd))))

theorem derives_stat_ifThenElse {third : List Kind} (condition : exp.Derives first)
    (body : Form.Derives rule block second) (other : Form.Derives rule block third) :
    stat.Derives (.ifWord :: (first ++ .thenWord :: (second ++ .elseWord :: (third ++
      [.endWord, .semicolon])))) := by
  apply Form.Derives.phrase
  apply Form.Derives.oneOf (.tail _ (.head _))
  have branch : Form.Derives rule (.row [.kind .elseWord, block]) (.elseWord :: third) :=
    row_kind_cons (row_singleton other)
  exact row_kind_cons
    (condition.row_cons (row_kind_cons
      (body.row_cons (branch.present.row_cons derives_conditionalEnd))))

end Phrase

end Grammar

end Lunette
