import Lunette.Proofs.Grammar.Acceptance

/-!
# What programs begin with

A row of kinds is viable when the tokens of some program begin with these kinds.  The end
marker counts as one of the tokens, so a viable row that ends in it is a whole program.

An assignment sign stands in a program only behind a name.  So a row in which it stands behind
anything else is not viable, whatever follows.
-/

namespace Lunette

namespace Grammar

/-- Every assignment sign in the row stands behind a name, where the row itself stands behind
the given kind. -/
def Assigns (previous : Kind) : List Kind → Prop
  | [] => True
  | kind :: rest => (kind = .assign → previous = .identifier) ∧ Assigns kind rest

/-- Every assignment sign in the row stands behind a name of the row. -/
def AssignsToNames (kinds : List Kind) : Prop :=
  ∀ previous, Assigns previous kinds

namespace AssignsToNames

theorem nil : AssignsToNames [] :=
  fun _ => trivial

theorem singleton {kind : Kind} (notAssign : kind ≠ .assign) : AssignsToNames [kind] :=
  fun _ => ⟨fun isAssign => absurd isAssign notAssign, trivial⟩

/-- A name may be assigned to. -/
theorem assign {kinds : List Kind} (back : AssignsToNames kinds) :
    AssignsToNames (.identifier :: .assign :: kinds) :=
  fun _ => ⟨nofun, fun _ => rfl, back _⟩

theorem append {first second : List Kind} (front : AssignsToNames first)
    (back : AssignsToNames second) : AssignsToNames (first ++ second) := by
  intro previous
  have inFront := front previous
  clear front
  induction first generalizing previous with
  | nil => exact back previous
  | cons kind first inductionHypothesis =>
      exact ⟨inFront.1, inductionHypothesis kind inFront.2⟩

/-- What stands behind a part of the row. -/
theorem exists_assigns {first second : List Kind} {previous : Kind}
    (assigns : Assigns previous (first ++ second)) : ∃ last, Assigns last second := by
  induction first generalizing previous with
  | nil => exact ⟨previous, assigns⟩
  | cons kind first inductionHypothesis => exact inductionHypothesis assigns.2

theorem kind_eq {front back : List Kind} {kind : Kind}
    (assigns : AssignsToNames (front ++ kind :: .assign :: back)) : kind = .identifier := by
  obtain ⟨last, behind⟩ := exists_assigns (assigns .semicolon)
  exact behind.2.1 rfl

end AssignsToNames

/-- The kinds of the tokens are assigned to names only. -/
def Phrase.Assigning (_ : Phrase) (tokens : List Token) : Prop :=
  AssignsToNames (tokens.map Token.kind)

/-- A form that has no assignment sign of its own adds none. -/
theorem assignsToNames_of_spans {form : Form Phrase} {tokens : List Token}
    (notAssign : .assign ∉ form.kinds) (spans : form.Spans Phrase.Assigning tokens) :
    AssignsToNames (tokens.map Token.kind) := by
  induction form generalizing tokens with
  | kind own =>
      obtain ⟨token, rfl, rfl⟩ := spans
      exact .singleton fun isAssign => notAssign (isAssign ▸ List.mem_singleton_self _)
  | phrase name => exact spans
  | nothing =>
      cases spans
      exact .nil
  | never => cases spans
  | seq first second firstHypothesis secondHypothesis =>
      obtain ⟨front, back, firstSpans, secondSpans, rfl⟩ := spans
      rw [List.map_append]
      exact .append
        (firstHypothesis (fun member => notAssign (List.mem_append_left _ member)) firstSpans)
        (secondHypothesis (fun member => notAssign (List.mem_append_right _ member)) secondSpans)
  | either first second firstHypothesis secondHypothesis =>
      rcases spans with firstSpans | secondSpans
      · exact firstHypothesis (fun member => notAssign (List.mem_append_left _ member)) firstSpans
      · exact secondHypothesis (fun member => notAssign (List.mem_append_right _ member))
          secondSpans
  | optional inner innerHypothesis =>
      rcases spans with rfl | innerSpans
      · exact .nil
      · exact innerHypothesis notAssign innerSpans
  | repeated inner innerHypothesis =>
      obtain ⟨parts, fits, rfl⟩ := spans
      induction parts with
      | nil => exact .nil
      | cons part parts partsHypothesis =>
          rw [List.forall_mem_cons] at fits
          rw [List.flatten_cons, List.map_append]
          exact .append (innerHypothesis notAssign fits.1) (partsHypothesis fits.2)

/-- What follows a name and an assignment sign. -/
theorem AssignsToNames.valued {inside : List Token} {target sign closing : Token}
    (isName : target.kind = .identifier) (isAssign : sign.kind = .assign)
    (isSemicolon : closing.kind = .semicolon) (value : Phrase.exp.Assigning inside) :
    AssignsToNames ((target :: sign :: (inside ++ [closing])).map Token.kind) := by
  simp only [List.map_cons, List.map_append, List.map_nil, isName, isAssign, isSemicolon]
  exact .assign (.append value (.singleton (by decide)))

theorem assigning_stat {tokens : List Token} (spans : (rule .stat).Spans Phrase.Assigning tokens) :
    Phrase.stat.Assigning tokens := by
  simp only [rule, Form.spans_oneOf, List.mem_cons, List.not_mem_nil, or_false, exists_eq_or_imp,
    exists_eq_left] at spans
  rcases spans with isDeclaration | isConditional | isAssignment | isCall
  · simp only [Form.spans_row_cons, Form.spans_row_nil, Form.spans_kind, Form.spans_phrase,
      Form.spans_optional] at isDeclaration
    rcases isDeclaration with ⟨_, _, ⟨lead, isLocal, rfl⟩, ⟨_, _, ⟨target, isName, rfl⟩, ⟨_, _,
      assigned, ⟨_, _, ⟨closing, isSemicolon, rfl⟩, rfl, rfl⟩, rfl⟩, rfl⟩, rfl⟩
    have leads : AssignsToNames [lead.kind] := .singleton (by simp [isLocal])
    rcases assigned with rfl | ⟨_, _, ⟨sign, isAssign, rfl⟩, ⟨inside, _, value, rfl, rfl⟩, rfl⟩
    · have bare : AssignsToNames [target.kind, closing.kind] :=
        .append (.singleton (by simp [isName])) (.singleton (by simp [isSemicolon]))
      exact leads.append bare
    · have valued := AssignsToNames.valued isName isAssign isSemicolon value
      rw [List.append_nil]
      exact leads.append valued
  · exact assignsToNames_of_spans (by decide) isConditional
  · simp only [Form.spans_row_cons, Form.spans_row_nil, Form.spans_kind, Form.spans_phrase]
      at isAssignment
    rcases isAssignment with ⟨_, _, ⟨target, isName, rfl⟩, ⟨_, _, ⟨sign, isAssign, rfl⟩,
      ⟨inside, _, value, ⟨_, _, ⟨closing, isSemicolon, rfl⟩, rfl, rfl⟩, rfl⟩, rfl⟩, rfl⟩
    exact .valued isName isAssign isSemicolon value
  · exact assignsToNames_of_spans (by decide) isCall

theorem assigning_of_spans (phrase : Phrase) (tokens : List Token)
    (spans : (rule phrase).Spans Phrase.Assigning tokens) : phrase.Assigning tokens := by
  cases phrase with
  | stat => exact assigning_stat spans
  | program => exact assignsToNames_of_spans (by decide) spans
  | exp => exact assignsToNames_of_spans (by decide) spans
  | unary => exact assignsToNames_of_spans (by decide) spans
  | args => exact assignsToNames_of_spans (by decide) spans
  | binop => exact assignsToNames_of_spans (by decide) spans

/-- There are tokens of any kinds. -/
theorem exists_map_kind_eq (kinds : List Kind) :
    ∃ tokens : List Token, tokens.map Token.kind = kinds := by
  refine ⟨kinds.map fun kind => ⟨kind, [], .start⟩, ?_⟩
  rw [List.map_map]
  exact List.map_id _

/-- In a sentence an assignment sign stands behind a name. -/
theorem Sentence.assignsToNames {kinds : List Kind} (sentence : Sentence kinds) :
    AssignsToNames kinds := by
  obtain ⟨tokens, rfl⟩ := exists_map_kind_eq kinds
  exact Form.Derives.spans sentence assigning_of_spans tokens rfl

/-! ## Viable rows -/

/-- The tokens of some program begin with the kinds. -/
def Viable (kinds : List Kind) : Prop :=
  ∃ tokens program, Ast.Program.ofTokens tokens = .ok program ∧ kinds <+: tokens.map Token.kind

/-- The tokens of programs are sentences with the end marker behind them. -/
theorem viable_iff {kinds : List Kind} :
    Viable kinds ↔ ∃ whole, Sentence whole ∧ kinds <+: whole ++ [.endOfInput] := by
  constructor
  · rintro ⟨tokens, program, okEq, begins⟩
    obtain ⟨closed, closedEq, sentence⟩ := Ast.Program.exists_ofTokens_eq_ok_iff.mp ⟨program, okEq⟩
    rw [← ClosedTokens.toList_of_ofList? closedEq, ClosedTokens.toList, List.map_append,
      List.map_singleton, closed.marker_kind] at begins
    exact ⟨_, sentence, begins⟩
  · rintro ⟨whole, sentence, begins⟩
    obtain ⟨tokens, tokensEq⟩ := exists_map_kind_eq (whole ++ [.endOfInput])
    have accepted : ∃ closed, ClosedTokens.ofList? tokens = some closed ∧
        Sentence (closed.body.map Token.kind) :=
      ClosedTokens.exists_ofList?_iff Sentence |>.mpr
        ⟨whole, sentence.endOfInput_notMem, sentence, tokensEq⟩
    obtain ⟨program, okEq⟩ := Ast.Program.exists_ofTokens_eq_ok_iff.mpr accepted
    exact ⟨tokens, program, okEq, tokensEq ▸ begins⟩

/-- Any part of a sentence from its beginning is viable. -/
theorem Sentence.viable {front back : List Kind} (sentence : Sentence (front ++ back)) :
    Viable front := by
  rw [viable_iff]
  refine ⟨front ++ back, sentence, ?_⟩
  rw [List.append_assoc]
  exact List.prefix_append _ _

/-- A viable row is a sentence with the end marker behind it, or goes on to a sentence. -/
theorem Viable.sentence_or {front : List Kind} {kind : Kind} (viable : Viable (front ++ [kind])) :
    kind = .endOfInput ∧ Sentence front ∨ ∃ more, Sentence (front ++ kind :: more) := by
  obtain ⟨whole, sentence, back, wholeEq⟩ := viable_iff.mp viable
  rcases List.eq_nil_or_concat back with rfl | ⟨more, last, rfl⟩
  · rw [List.append_nil] at wholeEq
    obtain ⟨frontEq, lastEq⟩ := List.append_inj' wholeEq rfl
    exact Or.inl ⟨List.singleton_inj.mp lastEq, frontEq ▸ sentence⟩
  · rw [List.concat_eq_append, ← List.append_assoc] at wholeEq
    have bodyEq := (List.append_inj' wholeEq rfl).1
    rw [List.append_assoc] at bodyEq
    exact Or.inr ⟨more, bodyEq ▸ sentence⟩

/-- A viable row that does not end in the end marker goes on to a sentence. -/
theorem Viable.exists_sentence {front : List Kind} {kind : Kind}
    (viable : Viable (front ++ [kind])) (notEnd : kind ≠ .endOfInput) :
    ∃ more, Sentence (front ++ kind :: more) := by
  rcases viable.sentence_or with ⟨isEnd, -⟩ | goesOn
  · exact absurd isEnd notEnd
  · exact goesOn

/-- A viable row that ends in the end marker is a sentence in front of it. -/
theorem Viable.sentence {front : List Kind} (viable : Viable (front ++ [.endOfInput])) :
    Sentence front := by
  rcases viable.sentence_or with ⟨-, sentence⟩ | ⟨more, sentence⟩
  · exact sentence
  · have member : Kind.endOfInput ∈ front ++ .endOfInput :: more := by simp
    exact absurd member sentence.endOfInput_notMem

/-- No program goes on behind an assignment sign that stands behind anything but a name. -/
theorem not_viable_of_assign {front : List Kind} {kind : Kind} (notName : kind ≠ .identifier) :
    ¬ Viable (front ++ [kind, .assign]) := by
  intro viable
  rw [List.append_cons] at viable
  obtain ⟨more, sentence⟩ := viable.exists_sentence (by decide)
  rw [List.append_assoc] at sentence
  exact notName sentence.assignsToNames.kind_eq

end Grammar

end Lunette
