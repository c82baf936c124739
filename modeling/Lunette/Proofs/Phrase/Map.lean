import Lunette.Proofs.Phrase.Shape

/-!
# Phrases with other tokens

A phrase is carried over to other tokens by a function on tokens.  Its written form goes
along, and its shape too if the function keeps the kinds of tokens.
-/

namespace Lunette

/-- The slot for the other tokens. -/
def Slot.map (function : Token → Token) : Slot → Slot
  | .fixed kind => .fixed kind
  | .kept token => .kept (function token)

namespace Ast

variable (function : Token → Token)

/-! ## Carrying phrases over -/

mutual

/-- The expression with the other tokens. -/
def Exp.map : Exp → Exp
  | .single left => .single left.map
  | .applied left op right => .applied left.map (function op) right.map

/-- The operand, with or without a prefix operator, with the other tokens. -/
def Unary.map : Unary → Unary
  | .bare operand => .bare operand.map
  | .prefixed op operand => .prefixed (function op) operand.map

/-- What an operator applies to, with the other tokens. -/
def Operand.map : Operand → Operand
  | .unary inner => .unary inner.map
  | .call inner => .call inner.map
  | .primary inner => .primary inner.map

/-- The call with the other tokens. -/
def Call.map : Call → Call
  | .of callee args => .of callee.map args.map

/-- The token or expression in parentheses with the other tokens. -/
def Primary.map : Primary → Primary
  | .term token => .term (function token)
  | .paren inner => .paren inner.map

/-- The arguments with the other tokens. -/
def Args.map : Args → Args
  | .empty => .empty
  | .one value => .one value.map

end

mutual

/-- The statement with the other tokens. -/
def Stat.map : Stat → Stat
  | .declare target value => .declare (function target) (value.map (Exp.map function))
  | .assign target value => .assign (function target) (value.map function)
  | .call inner => .call (inner.map function)
  | .ifThen condition body => .ifThen (condition.map function) (Stat.mapAll body)
  | .ifThenElse condition body other =>
      .ifThenElse (condition.map function) (Stat.mapAll body) (Stat.mapAll other)

/-- The statements in a row with the other tokens. -/
def Stat.mapAll : List Stat → List Stat
  | [] => []
  | stat :: rest => stat.map :: Stat.mapAll rest

end

/-- The program with the other tokens. -/
def Program.map (program : Program) : Program :=
  ⟨Stat.mapAll function program.block⟩

/-! ## The written form goes along -/

mutual

theorem Exp.written_map : ∀ exp : Exp,
    (exp.map function).written = exp.written.map (Slot.map function)
  | .single left => left.written_map
  | .applied left op right => by
      simp only [Exp.map, Exp.written, left.written_map, right.written_map, List.map_append,
        List.map_cons, Slot.map]

theorem Unary.written_map : ∀ unary : Unary,
    (unary.map function).written = unary.written.map (Slot.map function)
  | .bare operand => operand.written_map
  | .prefixed op operand => congrArg (Slot.kept (function op) :: ·) operand.written_map

theorem Operand.written_map : ∀ operand : Operand,
    (operand.map function).written = operand.written.map (Slot.map function)
  | .unary inner => inner.written_map
  | .call inner => inner.written_map
  | .primary inner => inner.written_map

theorem Call.written_map : ∀ call : Call,
    (call.map function).written = call.written.map (Slot.map function)
  | .of callee args => by
      simp only [Call.map, Call.written, callee.written_map, args.written_map, List.map_append]

theorem Primary.written_map : ∀ primary : Primary,
    (primary.map function).written = primary.written.map (Slot.map function)
  | .term _ => rfl
  | .paren inner => by
      simp only [Primary.map, Primary.written, inner.written_map, List.cons_append,
        List.map_append, List.map_cons, List.map_nil, Slot.map]

theorem Args.written_map : ∀ args : Args,
    (args.map function).written = args.written.map (Slot.map function)
  | .empty => rfl
  | .one value => by
      simp only [Args.map, Args.written, value.written_map, List.cons_append, List.map_append,
        List.map_cons, List.map_nil, Slot.map]

end

/-- The first word of a statement is not a token of the tree. -/
theorem Stat.lead_map (stat : Stat) :
    (stat.map function).lead = stat.lead.map (Slot.map function) := by
  cases stat <;> rfl

theorem Stat.conditionalEnd_map :
    Stat.conditionalEnd.map (Slot.map function) = Stat.conditionalEnd :=
  rfl

mutual

theorem Stat.unled_map : ∀ stat : Stat,
    (stat.map function).unled = stat.unled.map (Slot.map function)
  | .declare _ none => rfl
  | .declare _ (some value) | .assign _ value => by
      simp only [Stat.map, Option.map_some, Stat.unled, value.written_map, List.cons_append,
        List.map_append, List.map_cons, List.map_nil, Slot.map]
  | .call inner => by
      simp only [Stat.map, Stat.unled, inner.written_map, List.map_append, List.map_cons,
        List.map_nil, Slot.map]
  | .ifThen condition body => by
      simp only [Stat.map, Stat.unled, condition.written_map, Stat.writtenAll_mapAll body,
        List.map_append, List.map_cons, Slot.map, Stat.conditionalEnd_map]
  | .ifThenElse condition body other => by
      simp only [Stat.map, Stat.unled, condition.written_map, Stat.writtenAll_mapAll body,
        Stat.writtenAll_mapAll other, List.map_append, List.map_cons, Slot.map,
        Stat.conditionalEnd_map]

theorem Stat.writtenAll_mapAll : ∀ stats : List Stat,
    Stat.writtenAll (Stat.mapAll function stats) =
      (Stat.writtenAll stats).map (Slot.map function)
  | [] => rfl
  | stat :: rest => by
      simp only [Stat.mapAll, Stat.writtenAll, stat.lead_map, stat.unled_map,
        Stat.writtenAll_mapAll rest, List.map_append]

end

/-- The written form of a program goes along with its tokens. -/
theorem Program.written_map (program : Program) :
    (program.map function).written = program.written.map (Slot.map function) :=
  Stat.writtenAll_mapAll function program.block

/-! ## The shape goes along -/

/-- The function does not change the kinds of tokens. -/
def KeepsKinds : Prop :=
  ∀ token, (function token).kind = token.kind

variable {function}

theorem Primary.IsName.map (keeps : KeepsKinds function) {primary : Primary}
    (isName : primary.IsName) : (primary.map function).IsName := by
  cases primary with
  | term token => exact (keeps token).trans isName
  | paren inner => cases isName

theorem Primary.IsCallable.map (keeps : KeepsKinds function) {primary : Primary}
    (isCallable : primary.IsCallable) : (primary.map function).IsCallable := by
  cases primary with
  | term token => exact (keeps token).trans isCallable
  | paren inner => trivial

mutual

theorem Exp.Shaped.map (keeps : KeepsKinds function) :
    ∀ {exp : Exp}, exp.Shaped → (exp.map function).Shaped
  | .single _, shaped => Unary.Shaped.map keeps shaped
  | .applied _ op _, ⟨leftShaped, isBinary, rightShaped⟩ =>
      ⟨Unary.Shaped.map keeps leftShaped, keeps op ▸ isBinary, Unary.Shaped.map keeps rightShaped⟩

theorem Unary.Shaped.map (keeps : KeepsKinds function) :
    ∀ {unary : Unary}, unary.Shaped → (unary.map function).Shaped
  | .bare _, shaped => Operand.ShapedAlone.map keeps shaped
  | .prefixed op _, ⟨isUnary, shaped⟩ =>
      ⟨keeps op ▸ isUnary, Operand.ShapedBehind.map keeps shaped⟩

theorem Operand.ShapedAlone.map (keeps : KeepsKinds function) : ∀ {operand : Operand},
    operand.ShapedAlone → (operand.map function).ShapedAlone
  | .unary _, shaped => nomatch shaped
  | .call (.of _ _), ⟨isName, calleeShaped, argsShaped⟩ =>
      ⟨isName.map keeps, Primary.Shaped.map keeps calleeShaped, Args.Shaped.map keeps argsShaped⟩
  | .primary _, shaped => Primary.Shaped.map keeps shaped

theorem Operand.ShapedBehind.map (keeps : KeepsKinds function) : ∀ {operand : Operand},
    operand.ShapedBehind → (operand.map function).ShapedBehind
  | .unary _, shaped => Unary.Shaped.map keeps shaped
  | .call _, shaped => nomatch shaped
  | .primary _, shaped => nomatch shaped

theorem Primary.Shaped.map (keeps : KeepsKinds function) : ∀ {primary : Primary},
    primary.Shaped → (primary.map function).Shaped
  | .term token, shaped => by
      unfold Primary.Shaped at shaped
      change (function token).kind = _ ∨ (function token).kind.isLiteral = true
      rw [keeps]
      exact shaped
  | .paren _, shaped => Exp.Shaped.map keeps shaped

theorem Args.Shaped.map (keeps : KeepsKinds function) :
    ∀ {args : Args}, args.Shaped → (args.map function).Shaped
  | .empty, _ => trivial
  | .one _, shaped => Exp.Shaped.map keeps shaped

end

/-- A name with a value has its shape with the other tokens too. -/
private theorem shaped_valued_map (keeps : KeepsKinds function) {target : Token} {value : Exp}
    (isName : target.kind = .identifier) (shaped : value.Shaped) :
    (function target).kind = .identifier ∧ (value.map function).Shaped :=
  ⟨(keeps target).trans isName, Exp.Shaped.map keeps shaped⟩

mutual

theorem Stat.Shaped.map (keeps : KeepsKinds function) : ∀ {stat : Stat},
    stat.Shaped → (stat.map function).Shaped
  | .declare target none, isName => by
      simp only [Stat.Shaped] at isName
      simp only [Stat.map, Option.map_none, Stat.Shaped]
      exact (keeps target).trans isName
  | .declare _ (some _), ⟨isName, shaped⟩ => shaped_valued_map keeps isName shaped
  | .assign _ _, ⟨isName, shaped⟩ => shaped_valued_map keeps isName shaped
  | .call (.of _ _), ⟨isCallable, calleeShaped, argsShaped⟩ =>
      ⟨isCallable.map keeps, Primary.Shaped.map keeps calleeShaped,
        Args.Shaped.map keeps argsShaped⟩
  | .ifThen _ _, ⟨conditionShaped, bodyShaped⟩ =>
      ⟨Exp.Shaped.map keeps conditionShaped, Stat.AllShaped.map keeps bodyShaped⟩
  | .ifThenElse _ _ _, ⟨conditionShaped, bodyShaped, otherShaped⟩ =>
      ⟨Exp.Shaped.map keeps conditionShaped, Stat.AllShaped.map keeps bodyShaped,
        Stat.AllShaped.map keeps otherShaped⟩

theorem Stat.AllShaped.map (keeps : KeepsKinds function) : ∀ {stats : List Stat},
    Stat.AllShaped stats → Stat.AllShaped (Stat.mapAll function stats)
  | [], _ => trivial
  | _ :: _, ⟨shaped, restShaped⟩ =>
      ⟨Stat.Shaped.map keeps shaped, Stat.AllShaped.map keeps restShaped⟩

end

/-- The shape of a program does not depend on more of its tokens than their kinds. -/
theorem Program.Shaped.map (keeps : KeepsKinds function) {program : Program}
    (shaped : program.Shaped) : (program.map function).Shaped :=
  Stat.AllShaped.map keeps shaped

end Ast

end Lunette
