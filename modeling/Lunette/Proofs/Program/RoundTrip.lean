import Lunette.Proofs.Grammar.Sentence
import Lunette.Proofs.Phrase.Map
import Lunette.Proofs.Token.Separation

/-!
# Programs are read back from their source text

A program is written as source text by laying out the lexemes of its written form.  Where its
shape is one that can be read and its tokens are lexemes, the text is read back as the same
program, whatever blanks it is laid out with; only the places of its tokens are new.
-/

namespace Lunette

/-- The text of the kinds of tokens that trees leave out. -/
def Kind.fixedText : Kind → Text
  | .assign => "=".toList
  | .comma => ",".toList
  | .semicolon => ";".toList
  | .openParen => "(".toList
  | .closeParen => ")".toList
  | .localWord => "local".toList
  | .ifWord => "if".toList
  | .thenWord => "then".toList
  | .elseWord => "else".toList
  | .endWord => "end".toList
  | _ => []

theorem Kind.valid_fixedText {kind : Kind} (leftOut : kind.isKept = false)
    (notEnd : kind ≠ .endOfInput) : Lexeme.Valid ⟨kind, kind.fixedText⟩ := by
  cases kind <;> first
    | exact absurd leftOut (by decide)
    | exact absurd rfl notEnd
    | exact .mark (by decide)
    | exact .reserved (by decide)

/-- The token without its place. -/
def Token.unplaced (token : Token) : Token :=
  { token with place := .start }

theorem Token.keepsKinds_unplaced : Ast.KeepsKinds Token.unplaced :=
  fun _ => rfl

namespace Slot

/-- The lexeme that is written for a slot. -/
def lexeme : Slot → Lexeme
  | .fixed kind => ⟨kind, kind.fixedText⟩
  | .kept token => token.toLexeme

@[simp]
theorem kind_lexeme (slot : Slot) : slot.lexeme.kind = slot.kind := by
  cases slot <;> rfl

/-- Tokens that fill slots go along with other tokens of the same kinds. -/
theorem Filled.map {function : Token → Token} (keeps : Ast.KeepsKinds function)
    {slots : List Slot} {tokens : List Token} (filled : Filled slots tokens) :
    Filled (slots.map (Slot.map function)) (tokens.map function) := by
  induction filled with
  | nil => exact .nil
  | @cons slot token slots tokens takes _ inductionHypothesis =>
      apply List.Forall₂.cons _ inductionHypothesis
      cases slot with
      | fixed kind => exact (keeps token).trans takes
      | kept own => exact congrArg function takes

/-- Tokens made of the lexemes that are written for slots fill the slots up to places. -/
theorem filled_unplaced {slots : List Slot} {tokens : List Token}
    (lexemesEq : tokens.map Token.toLexeme = slots.map lexeme) :
    Filled (slots.map (Slot.map Token.unplaced)) (tokens.map Token.unplaced) := by
  induction slots generalizing tokens with
  | nil =>
      rw [List.map_eq_nil_iff.mp lexemesEq]
      exact .nil
  | cons slot slots inductionHypothesis =>
      rcases List.map_eq_cons_iff.mp lexemesEq with ⟨token, others, rfl, headEq, othersEq⟩
      apply List.Forall₂.cons _ (inductionHypothesis othersEq)
      rcases token with ⟨kind, text, place⟩
      cases slot with
      | fixed own => exact congrArg Lexeme.kind headEq
      | kept own =>
          rcases own with ⟨ownKind, ownText, ownPlace⟩
          cases headEq
          rfl

end Slot

namespace Ast.Program

open Grammar

variable {program : Program}

/-- The lexemes that a program is written with. -/
def lexemes (program : Program) : List Lexeme :=
  program.written.map Slot.lexeme

/-- A shaped program whose own tokens are lexemes is written with lexemes only. -/
theorem valid_of_mem_lexemes (shaped : program.Shaped)
    (valid : ∀ token ∈ program.tree.terms, token.toLexeme.Valid) :
    ∀ lexeme ∈ program.lexemes, lexeme.Valid := by
  intro lexeme member
  rcases List.mem_map.mp member with ⟨slot, slotMember, rfl⟩
  cases slot with
  | fixed kind =>
      apply Kind.valid_fixedText (Stat.AllShaped.allProper shaped _ slotMember)
      rintro rfl
      exact shaped.sentence.endOfInput_notMem (List.mem_map_of_mem slotMember)
  | kept token =>
      apply valid
      have termsEq := (Node.root program).terms_tree
      change program.tree.terms = _ at termsEq
      rw [termsEq]
      exact List.mem_filterMap.mpr ⟨.kept token, slotMember, rfl⟩

/-- A spelling of a program goes along with other tokens of the same kinds. -/
theorem spells_map {function : Token → Token} (keeps : KeepsKinds function) {tokens : List Token}
    (spells : Spells Program.Shaped Program.written program tokens) :
    Spells Program.Shaped Program.written (program.map function) (tokens.map function) := by
  constructor
  · exact spells.shaped.map keeps
  · rw [written_map]
    exact spells.filled.map keeps

/-- Programs that the same lexemes are a spelling of differ in the places of their tokens
only. -/
theorem map_unplaced_eq_of_spells {reread : Program} {body : List Token}
    (bodyOpen : ∀ token ∈ body, token.kind ≠ .endOfInput) (shaped : program.Shaped)
    (lexemesEq : body.map Token.toLexeme = program.lexemes)
    (spells : Spells Program.Shaped Program.written reread body) :
    reread.map Token.unplaced = program.map Token.unplaced := by
  have unplacedOpen : ∀ token ∈ body.map Token.unplaced, token.kind ≠ .endOfInput := by
    intro token member
    rcases List.mem_map.mp member with ⟨placed, placedMember, rfl⟩
    exact bodyOpen placed placedMember
  let closed : ClosedTokens :=
    ⟨body.map Token.unplaced, Token.endMarker .start, unplacedOpen, rfl⟩
  apply @eq_of_spells closed
  · exact spells_map Token.keepsKinds_unplaced spells
  · constructor
    · exact shaped.map Token.keepsKinds_unplaced
    · rw [written_map]
      exact Slot.filled_unplaced lexemesEq

/-- A program is read back from every layout of its lexemes, up to the places of its
tokens. -/
theorem ofSource_layOut {gaps : Nat → Text} (shaped : program.Shaped)
    (valid : ∀ token ∈ program.tree.terms, token.toLexeme.Valid)
    (separates : Lexeme.Separates gaps program.lexemes) :
    ∃ tokens reread, ofSource (Lexeme.layOut gaps program.lexemes) = .ok (tokens, reread) ∧
      reread.map Token.unplaced = program.map Token.unplaced := by
  rcases Token.scanFrom_layOut .start (valid_of_mem_lexemes shaped valid) separates with
    ⟨body, ending, scanEq, lexemesEq⟩
  have kindsEq : body.map Token.kind = program.written.map Slot.kind := by
    have mapped := congrArg (List.map Lexeme.kind) lexemesEq
    simpa [lexemes, Function.comp_def, Token.toLexeme] using mapped
  have sentence : Sentence (body.map Token.kind) := kindsEq ▸ shaped.sentence
  have bodyOpen : ∀ token ∈ body, token.kind ≠ .endOfInput := by
    intro token member isEnd
    exact sentence.endOfInput_notMem (isEnd ▸ List.mem_map_of_mem member)
  rcases sentence_iff_exists_spells.mp sentence with ⟨reread, spells⟩
  have readEq : ofTokens (body ++ [Token.endMarker ending]) = .ok reread := by
    let closed : ClosedTokens := ⟨body, Token.endMarker ending, bodyOpen, rfl⟩
    exact ofTokens_eq_ok_iff.mpr ⟨closed, closed.ofList?_toList, spells⟩
  have sourceEq : ofSource (Lexeme.layOut gaps program.lexemes) =
      .ok (body ++ [Token.endMarker ending], reread) := by
    rw [ofSource, Token.scan, scanEq]
    change (ofTokens _).map _ = _
    rw [readEq]
    rfl
  exact ⟨_, reread, sourceEq, map_unplaced_eq_of_spells bodyOpen shaped lexemesEq spells⟩

/-- A program with an empty body, another body that is not, and a blank in a string. -/
def branching : Program where
  block :=
    [.declare ⟨.identifier, "x".toList, ⟨0, 0, 0⟩⟩
      (some (.applied (.bare (.primary (.term ⟨.string, "a b".toList, ⟨7, 1, 8⟩⟩)))
        ⟨.equal, "==".toList, ⟨-1, 0, 0⟩⟩
        (.prefixed ⟨.minus, "-".toList, ⟨3, 1, 4⟩⟩
          (.unary (.bare (.primary (.term ⟨.number, "12".toList, ⟨4, 1, 5⟩⟩))))))),
     .ifThenElse
      (.single (.prefixed ⟨.notWord, "not".toList, ⟨0, 2, 1⟩⟩
        (.unary (.bare (.call (.of (.term ⟨.identifier, "f".toList, ⟨0, 0, 0⟩⟩) .empty))))))
      []
      [.call (.of (.paren (.single (.bare (.primary (.term ⟨.nilWord, "nil".toList, ⟨9, 9, 9⟩⟩)))))
        .empty)]]

/-- One blank or two, by turns, with none in front. -/
def unevenGaps : Nat → Text
  | 0 => []
  | i + 1 => if i % 2 = 0 then [' '] else ['\r', '\n']

theorem ofSource_layOut_branching :
    branching.Shaped ∧ (∀ token ∈ branching.tree.terms, token.toLexeme.Valid) ∧
      Lexeme.Separates unevenGaps branching.lexemes ∧
      ∃ tokens reread,
        ofSource (Lexeme.layOut unevenGaps branching.lexemes) = .ok (tokens, reread) ∧
          reread.map Token.unplaced = branching.map Token.unplaced := by
  have shaped : branching.Shaped :=
    ⟨⟨rfl, Or.inr rfl, rfl, rfl, Or.inr rfl⟩,
      ⟨⟨rfl, rfl, Or.inl rfl, trivial⟩, trivial, ⟨trivial, Or.inr rfl, trivial⟩, trivial⟩,
      trivial⟩
  have valid : ∀ token ∈ branching.tree.terms, token.toLexeme.Valid := by
    rw [← List.forall_mem_map]
    change ∀ lexeme ∈ [_, _, _, _, _, _, _, _], Lexeme.Valid lexeme
    simp only [List.forall_mem_cons]
    exact ⟨.identifier (by decide) (by decide), .string (by decide), .mark (by decide),
      .mark (by decide), .number (by decide), .reserved (by decide),
      .identifier (by decide) (by decide), .reserved (by decide), List.forall_mem_nil _⟩
  have separates : Lexeme.Separates unevenGaps branching.lexemes := by
    constructor
    case blank =>
      intro i
      cases i with
      | zero => exact List.forall_mem_nil _
      | succ i =>
          rw [unevenGaps]
          split <;> exact List.all_eq_true.mp rfl
    case apart =>
      intro i positive _
      cases i with
      | zero => cases positive
      | succ i =>
          rw [unevenGaps]
          split <;> decide
  exact ⟨shaped, valid, separates, ofSource_layOut shaped valid separates⟩

end Ast.Program

end Lunette
