import Lunette.Proofs.Phrase.Shape

/-!
# Spellings of phrases

Tokens are a spelling of a phrase when the phrase is shaped and the tokens fill its written
form.  Spellings are put together the way phrases are: each kind of phrase has a spelling
made of those of its parts and of the tokens that the phrase adds.
-/

namespace Lunette

open Ast

/-- The value is shaped and the tokens fill its written form. -/
structure Spells {α : Type} (Shaped : α → Prop) (written : α → List Slot) (value : α)
    (tokens : List Token) : Prop where
  shaped : Shaped value
  filled : Slot.Filled (written value) tokens

namespace Spells

variable {opening sign closing : Token} {tokens first second third last : List Token}

/-! ## Expressions -/

theorem term {token : Token}
    (isSingle : token.kind = .identifier ∨ token.kind.isLiteral = true) :
    Spells Primary.Shaped Primary.written (.term token) [token] :=
  ⟨isSingle, .cons rfl .nil⟩

theorem paren {inner : Exp} (isOpen : opening.kind = .openParen)
    (spells : Spells Exp.Shaped Exp.written inner tokens) (isClose : closing.kind = .closeParen) :
    Spells Primary.Shaped Primary.written (.paren inner) (opening :: (tokens ++ [closing])) :=
  ⟨spells.shaped, .cons isOpen (spells.filled.append (.cons isClose .nil))⟩

theorem noArgs (isOpen : opening.kind = .openParen) (isClose : closing.kind = .closeParen) :
    Spells Args.Shaped Args.written .empty [opening, closing] :=
  ⟨trivial, .cons isOpen (.cons isClose .nil)⟩

theorem oneArg {value : Exp} (isOpen : opening.kind = .openParen)
    (spells : Spells Exp.Shaped Exp.written value tokens) (isClose : closing.kind = .closeParen) :
    Spells Args.Shaped Args.written (.one value) (opening :: (tokens ++ [closing])) :=
  ⟨spells.shaped, .cons isOpen (spells.filled.append (.cons isClose .nil))⟩

theorem call {callee : Primary} {args : Args}
    (calleeSpells : Spells Primary.Shaped Primary.written callee first)
    (argsSpells : Spells Args.Shaped Args.written args second) :
    Spells Call.Shaped Call.written (.of callee args) (first ++ second) :=
  ⟨⟨calleeSpells.shaped, argsSpells.shaped⟩, calleeSpells.filled.append argsSpells.filled⟩

theorem prefixed {op : Token} {inner : Unary} (isUnary : op.kind.isUnaryOperator = true)
    (spells : Spells Unary.Shaped Unary.written inner tokens) :
    Spells Unary.Shaped Unary.written (.prefixed op (.unary inner)) (op :: tokens) :=
  ⟨⟨isUnary, spells.shaped⟩, .cons rfl spells.filled⟩

theorem single {left : Unary} (spells : Spells Unary.Shaped Unary.written left tokens) :
    Spells Exp.Shaped Exp.written (.single left) tokens :=
  ⟨spells.shaped, spells.filled⟩

theorem applied {left right : Unary} {op : Token}
    (leftSpells : Spells Unary.Shaped Unary.written left first)
    (isBinary : op.kind.isBinaryOperator = true)
    (rightSpells : Spells Unary.Shaped Unary.written right second) :
    Spells Exp.Shaped Exp.written (.applied left op right) (first ++ op :: second) :=
  ⟨⟨leftSpells.shaped, isBinary, rightSpells.shaped⟩,
    leftSpells.filled.append (.cons rfl rightSpells.filled)⟩

/-! ## Statements behind their first word -/

theorem declareBare {target : Token} (isName : target.kind = .identifier)
    (isSemicolon : closing.kind = .semicolon) :
    Spells Stat.Shaped Stat.unled (.declare target none) [target, closing] :=
  ⟨isName, .cons rfl (.cons isSemicolon .nil)⟩

theorem declare {target : Token} {value : Exp} (isName : target.kind = .identifier)
    (isAssign : sign.kind = .assign) (spells : Spells Exp.Shaped Exp.written value tokens)
    (isSemicolon : closing.kind = .semicolon) :
    Spells Stat.Shaped Stat.unled (.declare target (some value))
      (target :: sign :: (tokens ++ [closing])) :=
  ⟨⟨isName, spells.shaped⟩,
    .cons rfl (.cons isAssign (spells.filled.append (.cons isSemicolon .nil)))⟩

theorem assign {target : Token} {value : Exp} (isName : target.kind = .identifier)
    (isAssign : sign.kind = .assign) (spells : Spells Exp.Shaped Exp.written value tokens)
    (isSemicolon : closing.kind = .semicolon) :
    Spells Stat.Shaped Stat.unled (.assign target value)
      (target :: sign :: (tokens ++ [closing])) :=
  ⟨⟨isName, spells.shaped⟩,
    .cons rfl (.cons isAssign (spells.filled.append (.cons isSemicolon .nil)))⟩

theorem callStatement {inner : Call} (isCallable : inner.callee.IsCallable)
    (spells : Spells Call.Shaped Call.written inner tokens)
    (isSemicolon : closing.kind = .semicolon) :
    Spells Stat.Shaped Stat.unled (.call inner) (tokens ++ [closing]) :=
  ⟨⟨isCallable, spells.shaped⟩, spells.filled.append (.cons isSemicolon .nil)⟩

theorem ifThen {condition : Exp} {body : List Stat} {word : Token}
    (conditionSpells : Spells Exp.Shaped Exp.written condition first)
    (isThen : word.kind = .thenWord)
    (bodySpells : Spells Stat.AllShaped Stat.writtenAll body second)
    (ending : Slot.Filled Stat.conditionalEnd last) :
    Spells Stat.Shaped Stat.unled (.ifThen condition body)
      (first ++ word :: (second ++ last)) :=
  ⟨⟨conditionSpells.shaped, bodySpells.shaped⟩, Stat.filled_ifThen_iff.mpr
    ⟨first, word, second, last, conditionSpells.filled, isThen, bodySpells.filled, ending, rfl⟩⟩

theorem ifThenElse {condition : Exp} {body other : List Stat} {word choice : Token}
    (conditionSpells : Spells Exp.Shaped Exp.written condition first)
    (isThen : word.kind = .thenWord)
    (bodySpells : Spells Stat.AllShaped Stat.writtenAll body second)
    (isElse : choice.kind = .elseWord)
    (otherSpells : Spells Stat.AllShaped Stat.writtenAll other third)
    (ending : Slot.Filled Stat.conditionalEnd last) :
    Spells Stat.Shaped Stat.unled (.ifThenElse condition body other)
      (first ++ word :: (second ++ choice :: (third ++ last))) :=
  ⟨⟨conditionSpells.shaped, bodySpells.shaped, otherSpells.shaped⟩,
    Stat.filled_ifThenElse_iff.mpr ⟨first, word, second, choice, third, last,
      conditionSpells.filled, isThen, bodySpells.filled, isElse, otherSpells.filled, ending, rfl⟩⟩

theorem conditionalEnd {word : Token} (isEnd : word.kind = .endWord)
    (isSemicolon : closing.kind = .semicolon) :
    Slot.Filled Stat.conditionalEnd [word, closing] :=
  .cons isEnd (.cons isSemicolon .nil)

/-! ## Whole statements -/

/-- A statement is its first word, if it has one, and what stands behind the word. -/
theorem led {stat : Stat} (leadFilled : Slot.Filled stat.lead first)
    (spells : Spells Stat.Shaped Stat.unled stat second) :
    Spells Stat.Shaped Stat.written stat (first ++ second) :=
  ⟨spells.shaped, leadFilled.append spells.filled⟩

theorem leadless {stat : Stat} (noLead : stat.lead = [])
    (spells : Spells Stat.Shaped Stat.unled stat tokens) :
    Spells Stat.Shaped Stat.written stat tokens := by
  have leadFilled : Slot.Filled stat.lead [] := by
    rw [noLead]
    exact .nil
  exact led leadFilled spells

/-- Statements in a row. -/
theorem cons {stat : Stat} {rest : List Stat}
    (spells : Spells Stat.Shaped Stat.written stat first)
    (restSpells : Spells Stat.AllShaped Stat.writtenAll rest second) :
    Spells Stat.AllShaped Stat.writtenAll (stat :: rest) (first ++ second) :=
  ⟨⟨spells.shaped, restSpells.shaped⟩, spells.filled.append restSpells.filled⟩

end Spells

end Lunette
