import Lunette.Token
import Mathlib.Data.List.Basic

/-!
# Grammars in extended form

The right sides of the rules of a grammar are forms over token kinds and phrase names: rows,
choices, options and repetitions.  A form derives rows of kinds, where a phrase derives what
the form of its rule derives.

Derivations are taken apart by what the forms span.  If every phrase holds of the tokens
that its rule spans, it holds of all tokens whose kinds it derives.
-/

namespace Lunette

/-- The right side of a grammar rule. -/
inductive Form (N : Type) where
  /-- A token of the kind. -/
  | kind (kind : Kind)
  /-- The phrase of the name. -/
  | phrase (name : N)
  /-- No token. -/
  | nothing
  /-- No alternative is left. -/
  | never
  /-- One form behind the other. -/
  | seq (first second : Form N)
  /-- One form or the other. -/
  | either (first second : Form N)
  /-- The form or nothing. -/
  | optional (inner : Form N)
  /-- The form any number of times. -/
  | repeated (inner : Form N)

namespace Form

variable {N : Type}

/-- Forms behind one another. -/
def row (forms : List (Form N)) : Form N :=
  forms.foldr seq nothing

/-- One of the forms. -/
def oneOf (forms : List (Form N)) : Form N :=
  forms.foldr either never

/-- A token of one of the kinds. -/
def anyOf (kinds : List Kind) : Form N :=
  oneOf (kinds.map kind)

/-! ## Derivations -/

/-- The form derives the row of kinds. -/
inductive Derives (rules : N → Form N) : Form N → List Kind → Prop where
  | kind (own : Kind) : Derives rules (.kind own) [own]
  | phrase {name : N} {kinds : List Kind} (inner : Derives rules (rules name) kinds) :
      Derives rules (.phrase name) kinds
  | nothing : Derives rules .nothing []
  | seq {first second : Form N} {front back : List Kind} (left : Derives rules first front)
      (right : Derives rules second back) : Derives rules (.seq first second) (front ++ back)
  | left {first second : Form N} {kinds : List Kind} (inner : Derives rules first kinds) :
      Derives rules (.either first second) kinds
  | right {first second : Form N} {kinds : List Kind} (inner : Derives rules second kinds) :
      Derives rules (.either first second) kinds
  | absent {inner : Form N} : Derives rules (.optional inner) []
  | present {form : Form N} {kinds : List Kind} (inner : Derives rules form kinds) :
      Derives rules (.optional form) kinds
  | done {inner : Form N} : Derives rules (.repeated inner) []
  | again {form : Form N} {front back : List Kind} (first : Derives rules form front)
      (rest : Derives rules (.repeated form) back) :
      Derives rules (.repeated form) (front ++ back)

namespace Derives

variable {rules : N → Form N}

theorem row_nil : Derives rules (row []) [] :=
  .nothing

theorem row_cons {form : Form N} {forms : List (Form N)} {front back : List Kind}
    (first : Derives rules form front) (rest : Derives rules (row forms) back) :
    Derives rules (row (form :: forms)) (front ++ back) :=
  .seq first rest

theorem row_kind_cons {own : Kind} {forms : List (Form N)} {kinds : List Kind}
    (rest : Derives rules (row forms) kinds) :
    Derives rules (row (.kind own :: forms)) (own :: kinds) :=
  row_cons (.kind own) rest

theorem row_singleton {form : Form N} {kinds : List Kind} (inner : Derives rules form kinds) :
    Derives rules (row [form]) kinds := by
  have whole := row_cons inner row_nil
  rwa [List.append_nil] at whole

theorem oneOf {form : Form N} {forms : List (Form N)} {kinds : List Kind}
    (member : form ∈ forms) (inner : Derives rules form kinds) :
    Derives rules (oneOf forms) kinds := by
  induction member with
  | head => exact .left inner
  | tail _ _ inductionHypothesis => exact .right inductionHypothesis

theorem anyOf {own : Kind} {kinds : List Kind} (member : own ∈ kinds) :
    Derives rules (anyOf kinds) [own] :=
  oneOf (List.mem_map_of_mem member) (.kind own)

end Derives

/-- One of the forms derives what a form in the list derives. -/
theorem derives_oneOf_iff {rules : N → Form N} {forms : List (Form N)} {kinds : List Kind} :
    Derives rules (oneOf forms) kinds ↔ ∃ form ∈ forms, Derives rules form kinds := by
  constructor
  · intro derives
    induction forms with
    | nil => cases derives
    | cons form forms inductionHypothesis =>
        change Derives rules (.either form (oneOf forms)) kinds at derives
        cases derives with
        | left inner => exact ⟨form, List.mem_cons_self, inner⟩
        | right inner =>
            rcases inductionHypothesis inner with ⟨other, member, derives⟩
            exact ⟨other, List.mem_cons_of_mem form member, derives⟩
  · rintro ⟨form, member, inner⟩
    exact .oneOf member inner

theorem derives_row_cons_iff {rules : N → Form N} {form : Form N} {forms : List (Form N)}
    {kinds : List Kind} :
    Derives rules (row (form :: forms)) kinds ↔
      ∃ front back, Derives rules form front ∧ Derives rules (row forms) back ∧
        kinds = front ++ back := by
  constructor
  · intro derives
    change Derives rules (.seq form (row forms)) kinds at derives
    cases derives with
    | seq left right => exact ⟨_, _, left, right, rfl⟩
  · rintro ⟨front, back, first, rest, rfl⟩
    exact .row_cons first rest

theorem Derives.row_append {rules : N → Form N} {forms others : List (Form N)}
    {front back : List Kind} (first : Derives rules (row forms) front)
    (rest : Derives rules (row others) back) :
    Derives rules (row (forms ++ others)) (front ++ back) := by
  induction forms generalizing front with
  | nil =>
      cases first
      exact rest
  | cons form forms inductionHypothesis =>
      rcases derives_row_cons_iff.mp first with ⟨left, right, inLeft, inRight, rfl⟩
      rw [List.append_assoc]
      exact inLeft.row_cons (inductionHypothesis inRight)

/-! ## Forms in place of phrases -/

/-- The form with forms of another grammar in place of its phrases. -/
def subst {M : Type} (image : N → Form M) : Form N → Form M
  | .kind own => .kind own
  | .phrase name => image name
  | .nothing => .nothing
  | .never => .never
  | .seq first second => .seq (first.subst image) (second.subst image)
  | .either first second => .either (first.subst image) (second.subst image)
  | .optional inner => .optional (inner.subst image)
  | .repeated inner => .repeated (inner.subst image)

/-- What a form derives is derived in the other grammar too, if the forms that are put in place
of phrases derive there what is put in place of the rules of these phrases. -/
theorem Derives.subst {M : Type} {rules : N → Form N} {others : M → Form M}
    {image : N → Form M} (simulates : ∀ name kinds,
      Derives others ((rules name).subst image) kinds → Derives others (image name) kinds)
    {form : Form N} {kinds : List Kind} (derives : Derives rules form kinds) :
    Derives others (form.subst image) kinds := by
  induction derives with
  | kind own => exact .kind own
  | @phrase name kinds _ inductionHypothesis => exact simulates name kinds inductionHypothesis
  | nothing => exact .nothing
  | seq _ _ leftHypothesis rightHypothesis => exact .seq leftHypothesis rightHypothesis
  | left _ inductionHypothesis => exact .left inductionHypothesis
  | right _ inductionHypothesis => exact .right inductionHypothesis
  | absent => exact .absent
  | present _ inductionHypothesis => exact .present inductionHypothesis
  | done => exact .done
  | again _ _ firstHypothesis restHypothesis => exact .again firstHypothesis restHypothesis

/-! ## Kinds that a grammar mentions -/

/-- The kinds that stand in the form. -/
def kinds : Form N → List Kind
  | .kind own => [own]
  | .phrase _ | .nothing | .never => []
  | .seq first second | .either first second => first.kinds ++ second.kinds
  | .optional inner | .repeated inner => inner.kinds

/-- A form derives only kinds that stand in it or in a rule. -/
theorem Derives.mem_kinds {rules : N → Form N} {form : Form N} {derived : List Kind}
    {kind : Kind} (derives : Derives rules form derived) (member : kind ∈ derived) :
    kind ∈ form.kinds ∨ ∃ name, kind ∈ (rules name).kinds := by
  induction derives with
  | kind own => exact Or.inl member
  | @phrase name _ _ inductionHypothesis =>
      rcases inductionHypothesis member with inRule | inOther
      · exact Or.inr ⟨name, inRule⟩
      · exact Or.inr inOther
  | nothing | absent | done => cases member
  | seq _ _ leftHypothesis rightHypothesis =>
      rcases List.mem_append.mp member with inFront | inBack
      · exact (leftHypothesis inFront).imp_left (List.mem_append_left _)
      · exact (rightHypothesis inBack).imp_left (List.mem_append_right _)
  | left _ inductionHypothesis =>
      exact (inductionHypothesis member).imp_left (List.mem_append_left _)
  | right _ inductionHypothesis =>
      exact (inductionHypothesis member).imp_left (List.mem_append_right _)
  | present _ inductionHypothesis => exact inductionHypothesis member
  | again _ _ firstHypothesis restHypothesis =>
      rcases List.mem_append.mp member with inFront | inBack
      · exact firstHypothesis inFront
      · exact restHypothesis inBack

/-! ## What forms span -/

/-- The tokens fit the form, where the tokens that fit a phrase are given. -/
def Spans (Fits : N → List Token → Prop) : Form N → List Token → Prop
  | .kind own, tokens => ∃ token, token.kind = own ∧ tokens = [token]
  | .phrase name, tokens => Fits name tokens
  | .nothing, tokens => tokens = []
  | .never, _ => False
  | .seq first second, tokens =>
      ∃ front back, first.Spans Fits front ∧ second.Spans Fits back ∧ tokens = front ++ back
  | .either first second, tokens => first.Spans Fits tokens ∨ second.Spans Fits tokens
  | .optional inner, tokens => tokens = [] ∨ inner.Spans Fits tokens
  | .repeated inner, tokens =>
      ∃ parts : List (List Token), (∀ part ∈ parts, inner.Spans Fits part) ∧
        tokens = parts.flatten

variable {Fits : N → List Token → Prop} {tokens : List Token}

@[simp]
theorem spans_kind {own : Kind} :
    Spans Fits (.kind own) tokens ↔ ∃ token, token.kind = own ∧ tokens = [token] :=
  Iff.rfl

@[simp]
theorem spans_phrase {name : N} : Spans Fits (.phrase name) tokens ↔ Fits name tokens :=
  Iff.rfl

@[simp]
theorem spans_row_nil : Spans Fits (row []) tokens ↔ tokens = [] :=
  Iff.rfl

@[simp]
theorem spans_row_cons {form : Form N} {forms : List (Form N)} :
    Spans Fits (row (form :: forms)) tokens ↔
      ∃ front back, form.Spans Fits front ∧ (row forms).Spans Fits back ∧
        tokens = front ++ back :=
  Iff.rfl

theorem spans_oneOf {forms : List (Form N)} :
    Spans Fits (oneOf forms) tokens ↔ ∃ form ∈ forms, form.Spans Fits tokens := by
  induction forms with
  | nil => simp [oneOf, Spans]
  | cons form forms inductionHypothesis =>
      rw [List.exists_mem_cons_iff, ← inductionHypothesis]
      exact Iff.rfl

@[simp]
theorem spans_anyOf {kinds : List Kind} :
    Spans Fits (anyOf kinds) tokens ↔ ∃ token, token.kind ∈ kinds ∧ tokens = [token] := by
  rw [anyOf, spans_oneOf]
  constructor
  · rintro ⟨_, member, spans⟩
    rcases List.mem_map.mp member with ⟨own, ownMember, rfl⟩
    rcases spans with ⟨token, rfl, tokensEq⟩
    exact ⟨token, ownMember, tokensEq⟩
  · rintro ⟨token, member, tokensEq⟩
    exact ⟨.kind token.kind, List.mem_map_of_mem member, token, rfl, tokensEq⟩

@[simp]
theorem spans_optional {inner : Form N} :
    Spans Fits (.optional inner) tokens ↔ tokens = [] ∨ inner.Spans Fits tokens :=
  Iff.rfl

@[simp]
theorem spans_repeated {inner : Form N} :
    Spans Fits (.repeated inner) tokens ↔
      ∃ parts : List (List Token), (∀ part ∈ parts, inner.Spans Fits part) ∧
        tokens = parts.flatten :=
  Iff.rfl

/-- Tokens fit the forms that derive their kinds, if those that fit the rule of a phrase fit
the phrase. -/
theorem Derives.spans {rules : N → Form N} {form : Form N} {derived : List Kind}
    (derives : Derives rules form derived)
    (closed : ∀ name tokens, (rules name).Spans Fits tokens → Fits name tokens) :
    ∀ tokens : List Token, tokens.map Token.kind = derived → form.Spans Fits tokens := by
  induction derives with
  | kind own =>
      intro tokens kindsEq
      rcases List.map_eq_singleton_iff.mp kindsEq with ⟨token, rfl, isOwn⟩
      exact ⟨token, isOwn, rfl⟩
  | @phrase name _ _ inductionHypothesis =>
      intro tokens kindsEq
      exact closed name tokens (inductionHypothesis tokens kindsEq)
  | nothing =>
      intro tokens kindsEq
      exact List.map_eq_nil_iff.mp kindsEq
  | seq _ _ leftHypothesis rightHypothesis =>
      intro tokens kindsEq
      rcases List.map_eq_append_iff.mp kindsEq with ⟨front, back, rfl, frontEq, backEq⟩
      exact ⟨front, back, leftHypothesis front frontEq, rightHypothesis back backEq, rfl⟩
  | left _ inductionHypothesis =>
      intro tokens kindsEq
      exact Or.inl (inductionHypothesis tokens kindsEq)
  | right _ inductionHypothesis =>
      intro tokens kindsEq
      exact Or.inr (inductionHypothesis tokens kindsEq)
  | absent =>
      intro tokens kindsEq
      exact Or.inl (List.map_eq_nil_iff.mp kindsEq)
  | present _ inductionHypothesis =>
      intro tokens kindsEq
      exact Or.inr (inductionHypothesis tokens kindsEq)
  | done =>
      intro tokens kindsEq
      exact ⟨[], List.forall_mem_nil _, List.map_eq_nil_iff.mp kindsEq⟩
  | again _ _ firstHypothesis restHypothesis =>
      intro tokens kindsEq
      rcases List.map_eq_append_iff.mp kindsEq with ⟨front, back, rfl, frontEq, backEq⟩
      rcases restHypothesis back backEq with ⟨parts, fits, rfl⟩
      exact ⟨front :: parts, List.forall_mem_cons.mpr ⟨firstHypothesis front frontEq, fits⟩, rfl⟩

end Form

end Lunette
