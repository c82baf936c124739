import Lunette.Command.Outcome
import Lunette.Proofs.Program.Concatenation
import Lunette.Proofs.Reading.Purpose
import Lunette.Proofs.Tree.Dump

/-!
# Reports are single lines

A source that is not a program is reported with what is wrong and where, and an error in the
request with its reason.  Characters and paths are quoted, kinds go by their names and purposes
by the wording of the grammar, so a report has no line feed whatever the source holds.  The log
shows a path as it stands, and only there can a line of it break.
-/

namespace Lunette

theorem Text.newline_notMem_ofNat (n : Nat) : '\n' ∉ Text.ofNat n := by
  intro member
  have isDigit : ('\n' : Char).isDigit = true :=
    Nat.isDigit_of_mem_toDigits (by decide) (by decide) member
  exact absurd isDigit (by decide)

theorem Text.newline_notMem_ofInt (n : Int) : '\n' ∉ Text.ofInt n := by
  cases n with
  | ofNat n => exact newline_notMem_ofNat n
  | negSucc n => exact List.not_mem_cons_of_ne_of_not_mem (by decide) (newline_notMem_ofNat _)

theorem Text.newline_notMem_quoted (s : Text) : '\n' ∉ Text.quoted s := by
  rw [quoted_eq_quotedBy]
  exact newline_notMem_quotedBy _ s

theorem Token.newline_notMem_shown (token : Token) : '\n' ∉ token.shown := by
  rw [shown_eq_shownBy]
  exact newline_notMem_shownBy _ token

/-! ## Failures -/

/-- Where the text of a diagnostic is a single line, the whole message is one. -/
theorem Diagnostic.newline_notMem_message {diagnostic : Diagnostic}
    (oneLine : '\n' ∉ diagnostic.text) : '\n' ∉ diagnostic.message := by
  refine List.not_mem_append (List.not_mem_append (List.not_mem_append (List.not_mem_append
    oneLine ?_) ?_) ?_) ?_
  · decide
  · exact Text.newline_notMem_ofInt _
  · decide
  · exact Text.newline_notMem_ofInt _

theorem ScanError.newline_notMem_text (error : ScanError) : '\n' ∉ error.diagnostic.text := by
  cases error with
  | unexpectedCharacter char place =>
      exact List.not_mem_append (by decide) (Text.newline_notMem_quoted _)
  | unterminatedString place =>
      change '\n' ∉ "Unterminated string".toList
      decide

/-- A purpose that calls for a kind is worded by the grammar. -/
theorem Purpose.newline_notMem_message {purpose : Purpose} {kind : Kind}
    (serves : purpose.kind? = some kind) : '\n' ∉ purpose.message := by
  cases purpose with
  | stated message => cases serves
  | statementEnd | conditionEnd | conditionalEnd | assignmentSign | variableName
  | parenthesisEnd | argsStart | argsEnd => decide

theorem ParseError.Purposeful.newline_notMem_text {error : ParseError}
    (purposeful : error.Purposeful) : '\n' ∉ error.diagnostic.text := by
  cases error with
  | expectedToken expected purpose found =>
      refine List.not_mem_append (List.not_mem_append (List.not_mem_append
        (List.not_mem_append ?_ ?_) ?_) ?_) ?_
      · split
        · exact List.not_mem_nil
        · exact List.not_mem_append (Purpose.newline_notMem_message purposeful) (by decide)
      · decide
      · exact Kind.notMem_name rfl _
      · decide
      · exact Token.newline_notMem_shown found
  | unexpectedTopLevel found =>
      exact List.not_mem_append
        (List.not_mem_append (by decide) (Token.newline_notMem_shown found)) (by decide)

/-! ## Errors in the request -/

theorem FileFault.newline_notMem_message (fault : FileFault) (path : Text) :
    '\n' ∉ fault.message path := by
  refine List.not_mem_append (List.not_mem_append (List.not_mem_append (List.not_mem_append
    (List.not_mem_append ?_ (Text.newline_notMem_ofNat _)) ?_) ?_) ?_)
    (Text.newline_notMem_quoted path)
  · decide
  · decide
  · cases fault <;> decide
  · decide

theorem Text.Utf8.Fault.newline_notMem_message (fault : Fault) : '\n' ∉ fault.message := by
  refine List.not_mem_append (List.not_mem_append (List.not_mem_append ?_ ?_) ?_) ?_
  · decide
  · split
    · exact List.not_mem_append (List.not_mem_append (List.not_mem_append (by decide)
        (newline_notMem_hex _ _)) (by decide)) (newline_notMem_ofNat _)
    · exact List.not_mem_append (List.not_mem_append (List.not_mem_append (by decide)
        (newline_notMem_ofNat _)) (by decide)) (newline_notMem_ofNat _)
  · decide
  · cases fault.reason <;> decide

/-! ## Failures of source texts -/

/-- A text is turned down by the grammar exactly when its tokens are. -/
theorem Ast.Program.ofSource_eq_parse_iff {s : Text} {error : ParseError} :
    ofSource s = .error (.parse error) ↔
      ∃ tokens, Token.scan s = .ok tokens ∧ ofTokens tokens = .error (.parse error) := by
  cases scanEq : Token.scan s with
  | error other => simp [ofSource_of_scan_error scanEq]
  | ok tokens =>
      rw [ofSource_of_scan_ok scanEq]
      simp only [Except.ok.injEq, exists_eq_left']
      cases ofTokens tokens <;> simp [Except.map]

/-- Scanned tokens are a program, or a purposeful error says why they are none. -/
theorem Ast.Program.ofTokens_of_scan {s : Text} {tokens : List Token}
    (scanEq : Token.scan s = .ok tokens) :
    (∃ program, ofTokens tokens = .ok program) ∨
      ∃ error, ofTokens tokens = .error (.parse error) ∧ error.Purposeful := by
  obtain ⟨closed, closedEq⟩ := Token.exists_closed_of_scan scanEq
  rw [← ClosedTokens.toList_of_ofList? closedEq, ofTokens_toList]
  cases blockEq : Rule.block.run closed.start with
  | ok block after => exact .inl ⟨_, rfl⟩
  | error error after => exact .inr ⟨_, rfl, Rule.Purposeful.block.error blockEq⟩

end Lunette
