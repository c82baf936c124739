import Lunette.Program
import Lunette.Proofs.Reading.Account.Statement
import Lunette.Proofs.Reading.Recovery.Statement

/-!
# Reading programs is reading their spellings

A closed token list is read as a program exactly when its tokens in front of the marker are
a spelling of the program.  One direction is the account of the rule for blocks, the other
one its recovery; that nothing is left unread comes from the check at the end of the
outermost block.
-/

namespace Lunette

open Ast

namespace Rule

/-- The outermost block ends at the end marker. -/
theorem kind_of_block_eq_ok {cursor after : Cursor} {values : Block}
    (okEq : block.run cursor = .ok values after) (outermost : after.depth = 0) :
    after.kind = .endOfInput := by
  rw [run_block_eq_run_blockOf, run_blockOf] at okEq
  split at okEq
  · dsimp only at okEq
    split at okEq
    · cases okEq
    · rename_i unread
      cases okEq
      by_contra notEnd
      exact unread ⟨outermost, notEnd⟩
  · cases okEq

end Rule

namespace ClosedTokens

/-- Only the end of the body has the kind of the marker. -/
theorem eq_nil_of_kind_eq {tokens : ClosedTokens} {cursor : Cursor}
    (suffix : cursor.rest <:+ tokens.body) (kindEq : cursor.kind = .endOfInput) :
    cursor.rest = [] := by
  cases restEq : cursor.rest with
  | nil => rfl
  | cons token rest =>
      have member : token ∈ tokens.body :=
        suffix.subset (restEq ▸ List.mem_cons_self)
      have tokenKind : token.kind = .endOfInput := by
        simpa [Cursor.kind, restEq] using kindEq
      exact absurd tokenKind (tokens.body_kind_ne token member)

end ClosedTokens

namespace Ast.Program

theorem read_eq_ok_iff_block {tokens : ClosedTokens} {program : Program} {after : Cursor} :
    read tokens = .ok program after ↔
      Rule.block.run tokens.start = .ok program.block after := by
  change (Rule.block >>= fun block => pure (Program.mk block)).run tokens.start = _ ↔ _
  rw [Rule.run_bind]
  cases Rule.block.run tokens.start with
  | ok block between =>
      rcases program with ⟨values⟩
      simp
  | error error between => simp

theorem read_eq_error_iff_block {tokens : ClosedTokens} {error : ParseError} {after : Cursor} :
    read tokens = .error error after ↔ Rule.block.run tokens.start = .error error after := by
  change (Rule.block >>= fun block => pure (Program.mk block)).run tokens.start = _ ↔ _
  rw [Rule.run_bind]
  cases Rule.block.run tokens.start with
  | ok block between => simp
  | error error between => simp

/-- Closed tokens are read as a program exactly when they are a spelling of it, and then
none of them is left. -/
theorem read_eq_ok_iff {tokens : ClosedTokens} {program : Program} {after : Cursor} :
    read tokens = .ok program after ↔
      Spells Program.Shaped Program.written program tokens.body ∧
        after = ⟨[], tokens.marker, 0⟩ := by
  rw [read_eq_ok_iff_block]
  constructor
  · intro okEq
    rcases Rule.Reads.block.account okEq with ⟨read, restEq, spells⟩
    have forward := Rule.Forward.block.ok okEq
    have kindEq := Rule.kind_of_block_eq_ok okEq forward.2.2
    have restNil := ClosedTokens.eq_nil_of_kind_eq forward.1 kindEq
    rcases after with ⟨rest, marker, depth⟩
    have markerEq : marker = tokens.marker := forward.2.1
    have depthEq : depth = 0 := forward.2.2
    cases restNil
    subst markerEq depthEq
    change tokens.body = read ++ [] at restEq
    rw [List.append_nil] at restEq
    rw [restEq]
    exact ⟨⟨spells.shaped, spells.filled⟩, rfl⟩
  · rintro ⟨spells, rfl⟩
    have ends : Rule.EndsBlock ⟨[], tokens.marker, 0⟩ := Rule.endsBlock_of_nil rfl
    have recovers := Rule.Recovers.block spells.shaped spells.filled ends fun _ => rfl
    rw [Rule.Recovers, Cursor.before, List.append_nil] at recovers
    exact recovers

/-- A token list is read as a program exactly when it is closed and its body is a spelling
of the program. -/
theorem ofTokens_eq_ok_iff {tokens : List Token} {program : Program} :
    ofTokens tokens = .ok program ↔
      ∃ closed, ClosedTokens.ofList? tokens = some closed ∧
        Spells Program.Shaped Program.written program closed.body := by
  unfold ofTokens
  cases closedEq : ClosedTokens.ofList? tokens with
  | none => simp
  | some closed =>
      simp only [Option.some.injEq, exists_eq_left']
      cases readEq : read closed with
      | ok found after =>
          have spells := read_eq_ok_iff.mp readEq
          constructor
          · intro foundEq
            cases foundEq
            exact spells.1
          · intro other
            have again := read_eq_ok_iff.mpr ⟨other, rfl⟩
            rw [readEq] at again
            cases again
            rfl
      | error error after =>
          simp only [reduceCtorEq, false_iff]
          intro spells
          have okEq := read_eq_ok_iff.mpr ⟨spells, rfl⟩
          rw [readEq] at okEq
          cases okEq

/-- A closed list is read by the rule for blocks. -/
theorem ofTokens_toList (tokens : ClosedTokens) :
    ofTokens tokens.toList =
      match Rule.block.run tokens.start with
      | .ok block _ => .ok ⟨block⟩
      | .error error _ => .error (.parse error) := by
  rw [ofTokens, ClosedTokens.ofList?_toList]
  dsimp only
  cases readEq : read tokens with
  | ok program after => rw [read_eq_ok_iff_block.mp readEq]
  | error error after => rw [read_eq_error_iff_block.mp readEq]

/-- Tokens are a spelling of one program at most. -/
theorem eq_of_spells {tokens : ClosedTokens} {first second : Program}
    (firstSpells : Spells Program.Shaped Program.written first tokens.body)
    (secondSpells : Spells Program.Shaped Program.written second tokens.body) :
    first = second := by
  have firstRead := read_eq_ok_iff.mpr ⟨firstSpells, rfl⟩
  have secondRead := read_eq_ok_iff.mpr ⟨secondSpells, rfl⟩
  rw [firstRead] at secondRead
  cases secondRead
  rfl

/-! ## Source texts -/

theorem ofSource_of_scan_ok {s : Text} {tokens : List Token} (scanEq : Token.scan s = .ok tokens) :
    ofSource s = (ofTokens tokens).map fun program => (tokens, program) := by
  rw [ofSource, scanEq]

theorem ofSource_of_scan_error {s : Text} {error : ScanError}
    (scanEq : Token.scan s = .error error) : ofSource s = .error (.scan error) := by
  rw [ofSource, scanEq]

/-- A text is read as a program exactly when its tokens are. -/
theorem ofSource_eq_ok_iff {s : Text} {tokens : List Token} {program : Program} :
    ofSource s = .ok (tokens, program) ↔
      Token.scan s = .ok tokens ∧ ofTokens tokens = .ok program := by
  cases scanEq : Token.scan s with
  | error error => simp [ofSource_of_scan_error scanEq]
  | ok found =>
      rw [ofSource_of_scan_ok scanEq]
      cases readEq : ofTokens found with
      | error failure =>
          simp only [Except.map, reduceCtorEq, Except.ok.injEq, false_iff, not_and]
          rintro rfl okEq
          rw [readEq] at okEq
          cases okEq
      | ok other =>
          simp only [Except.map, Except.ok.injEq, Prod.mk.injEq]
          constructor
          · rintro ⟨rfl, rfl⟩
            exact ⟨rfl, readEq⟩
          · rintro ⟨rfl, okEq⟩
            rw [readEq] at okEq
            exact ⟨rfl, Except.ok.inj okEq⟩

end Ast.Program

end Lunette
