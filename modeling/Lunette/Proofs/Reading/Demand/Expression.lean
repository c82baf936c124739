import Lunette.Proofs.Grammar.Sentence
import Lunette.Proofs.Reading.Demand

/-!
# What failing expressions demand

Wherever the reading of an expression fails, what has been read of it and the demanded kind
go on to an expression: a parenthesis can be closed, an operand can be a name, and an
operator can be given its operand.
-/

namespace Lunette

open Ast Grammar

/-- The kinds of a spelling are derived where those of its written form are. -/
theorem Spells.derives {α : Type} {Shaped : α → Prop} {written : α → List Slot} {value : α}
    {tokens : List Token} {form : Form Phrase} (spells : Spells Shaped written value tokens)
    (derives : Shaped value → Form.Derives rule form ((written value).map Slot.kind)) :
    Form.Derives rule form (tokens.map Token.kind) := by
  rw [spells.filled.map_kind]
  exact derives spells.shaped

namespace Grammar

/-- What is called where a statement begins: a name or an expression in parentheses. -/
abbrev Called (kinds : List Kind) : Prop :=
  Form.Derives rule (.oneOf [.kind .identifier, parenthesized]) kinds

theorem called_name : Called [.identifier] :=
  .oneOf (.head _) (.kind _)

theorem called_parenthesized {kinds : List Kind} (inner : Phrase.exp.Derives kinds) :
    Called (.openParen :: (kinds ++ [.closeParen])) :=
  .oneOf (.tail _ (.head _)) (Phrase.derives_parenthesized inner)

/-- What can be called is an operand by itself. -/
theorem Called.derives_unary {kinds : List Kind} (called : Called kinds) :
    Phrase.unary.Derives kinds := by
  cases called with
  | left name =>
      cases name
      exact Phrase.derives_unary_single (Or.inl rfl)
  | right others =>
      cases others with
      | left inner => exact .phrase (.oneOf (.tail _ (.tail _ (.tail _ (.head _)))) inner)
      | right none => cases none

theorem derives_unary_operators {ops : List Token} {kinds : List Kind}
    (allUnary : ∀ op ∈ ops, op.kind.isUnaryOperator = true) (operand : Phrase.unary.Derives kinds) :
    Phrase.unary.Derives (ops.map Token.kind ++ kinds) := by
  induction ops with
  | nil => exact operand
  | cons op ops inductionHypothesis =>
      rw [List.forall_mem_cons] at allUnary
      exact Phrase.derives_unary_prefixed allUnary.1 (inductionHypothesis allUnary.2)

end Grammar

namespace Rule

/-- A callee that begins with a token of the kind of a name is that token. -/
theorem map_kind_of_name {callee : Primary} {cursor : Cursor} {tokens more : List Token}
    (restEq : cursor.rest = tokens ++ more)
    (spells : Spells Primary.Shaped Primary.written callee tokens)
    (isName : cursor.kind = .identifier) : tokens.map Token.kind = [.identifier] := by
  have calleeName := (callable_of_kind restEq spells).1 isName
  rw [spells.filled.map_kind]
  cases callee with
  | term token => exact congrArg ([·]) calleeName
  | paren inner => cases calleeName

/-- What is known of a rule for nested expressions: where it fails it demands a kind that goes
on to an expression. -/
structure ReadsExp (exp : Rule Exp) : Prop where
  forward : Forward exp
  reads : Reads exp (Spells Exp.Shaped Exp.written)
  demands (cursor : Cursor) : Demands exp cursor Phrase.exp.Derives

namespace Demands

theorem unaryOperators {cursor : Cursor} {Completed : List Kind → Prop} :
    Demands unaryOperators cursor Completed := by
  intro error after errorEq
  rw [run_unaryOperators] at errorEq
  cases errorEq

variable {exp : Rule Exp} (nested : ReadsExp exp) {cursor : Cursor}

include nested

/-- An operand that is not complete could be called, as a literal is never the one to fail. -/
theorem primaryWith : Demands (primaryWith exp) cursor Called := by
  apply accept_bind rfl
  · intro token between _ _
    exact pure _
  · intro _
    apply accept_kind_bind (by decide)
    · intro opening between _
      apply bind nested.forward nested.reads
      · apply (nested.demands between).mono
        intro kinds inner
        exact ⟨[.closeParen], called_parenthesized inner⟩
      · intro inner tokens behind spells _ _
        have whole := called_parenthesized (spells.derives Exp.Shaped.derives)
        exact (expect _ ⟨[], whole⟩).bind_pure _
    · intro _
      exact (expect _ ⟨[], called_name⟩).bind_pure _

theorem argsWith : Demands (argsWith exp) cursor Phrase.args.Derives := by
  apply expect_bind (by decide)
  · exact ⟨[.closeParen], Phrase.derives_args_empty⟩
  · intro opening between _
    apply accept_kind_bind (by decide)
    · intro closing after _
      exact pure _
    · intro _
      apply bind nested.forward nested.reads
      · apply (nested.demands between).mono
        intro kinds inner
        exact ⟨[.closeParen], Phrase.derives_args_one inner⟩
      · intro value tokens behind spells _ _
        have whole := Phrase.derives_args_one (spells.derives Exp.Shaped.derives)
        exact (expect _ ⟨[], whole⟩).bind_pure _

/-- A call demands what its callee does, and behind a callee, which is known to be in the
given front, what its arguments do. -/
theorem callWith (Front : List Kind → Prop) {Completed : List Kind → Prop}
    (callee : Demands (Rule.primaryWith exp) cursor Completed)
    (front : ∀ value tokens more, Spells Primary.Shaped Primary.written value tokens →
      cursor.rest = tokens ++ more → Front (tokens.map Token.kind))
    (complete : ∀ first kinds, Front first → Phrase.args.Derives kinds →
      ∃ more, Completed (first ++ (kinds ++ more))) :
    Demands (callWith exp) cursor Completed := by
  apply bind (.primaryWith nested.forward) (.primaryWith nested.reads) callee
  intro value tokens between spells restEq _
  have isFront := front value tokens between.rest spells restEq
  apply bind_pure
  apply (argsWith nested).mono
  intro kinds derives
  exact complete _ kinds isFront derives

/-- A name in front of an opening parenthesis is the start of a call. -/
theorem operandWith : Demands (operandWith exp) cursor Phrase.unary.Derives := by
  have single : Demands (Rule.primaryWith exp) cursor Phrase.unary.Derives :=
    (primaryWith nested).imp fun _ => Called.derives_unary
  intro error after errorEq
  rw [run_operandWith] at errorEq
  split at errorEq
  · rename_i isCall
    have calls : Demands (Rule.callWith exp) cursor Phrase.unary.Derives := by
      apply callWith nested (· = [.identifier]) single
      · intro value tokens more spells restEq
        exact map_kind_of_name restEq spells isCall.1
      · rintro _ kinds rfl derives
        rw [← List.append_nil kinds] at derives
        exact ⟨[], Phrase.derives_unary_call derives⟩
    exact calls.map _ error after errorEq
  · exact single.map _ error after errorEq

theorem unaryWith : Demands (unaryWith exp) cursor Phrase.unary.Derives := by
  apply bind .unaryOperators .unaryOperators unaryOperators
  rintro ops _ between ⟨rfl, allUnary⟩ - -
  apply bind_pure
  apply (operandWith nested).imp
  intro kinds derives
  exact derives_unary_operators allUnary derives

theorem expWith : Demands (expWith exp) cursor Phrase.exp.Derives := by
  apply bind (.unaryWith nested.forward) (.unaryWith nested.reads)
  · exact (unaryWith nested).imp fun _ => Phrase.derives_exp_single
  · intro left tokens between leftSpells _ _
    have left := leftSpells.derives Unary.Shaped.derives
    apply accept_bind rfl
    · intro op behind isBinary _
      apply bind_pure
      apply (unaryWith nested).imp
      intro kinds derives
      exact Phrase.derives_exp_applied left isBinary derives
    · intro _
      exact pure _

end Demands

namespace ReadsExp

theorem expWithin (bound : Nat) : ReadsExp (expWithin bound) := by
  induction bound with
  | zero =>
      have single : Phrase.exp.Derives [.identifier] :=
        Phrase.derives_exp_single (Phrase.derives_unary_single (Or.inl rfl))
      exact ⟨.expWithin 0, .expWithin 0, fun _ => (Demands.expect _ ⟨[], single⟩).bind_pure _⟩
  | succ bound inductionHypothesis =>
      exact ⟨.expWithin _, .expWithin _, fun cursor => .expWith inductionHypothesis⟩

/-- An expression that cannot be read demands a kind that goes on to one. -/
theorem exp : ReadsExp exp where
  forward := .exp
  reads := .exp
  demands _ := .bounded fun bound => (expWithin bound).demands _

end ReadsExp

end Rule

end Lunette
