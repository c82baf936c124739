import Lunette.Proofs.Program.Kinds
import Lunette.Proofs.Token.Concatenation

/-!
# Programs concatenate

A program may stand in front of any text: what is read of the two together are the statements
of the program and then what is read of the text alone, moved behind the program.  If the text
cannot be read, neither can the two together, for the same reason at the moved place.

A program ends with a semicolon, which fuses with nothing, so its tokens are those it has alone.
Its statements are read alike whatever follows them, and no rule looks at where a token stands.
-/

namespace Lunette

open Ast

namespace Rule

/-- The result of reading statements, with other statements in front. -/
def prepended (values : Block) :
    EStateM.Result ParseError Cursor Block → EStateM.Result ParseError Cursor Block
  | .ok more after => .ok (values ++ more) after
  | .error error after => .error error after

/-- Inside a block, spelled statements are read in front of whatever is read behind them. -/
theorem run_stats_before {values : Block} {tokens : List Token} {after : Cursor}
    (shaped : Stat.AllShaped values) (filled : Slot.Filled (Stat.writtenAll values) tokens)
    (inBlock : 0 < after.depth) :
    stats.run (after.before tokens) = prepended values (stats.run after) := by
  induction values generalizing tokens with
  | nil =>
      cases filled
      rw [Cursor.before_nil]
      cases stats.run after <;> rfl
  | cons first rest inductionHypothesis =>
      obtain ⟨front, back, firstFilled, restFilled, rfl⟩ := Slot.filled_append_iff.mp filled
      have firstEq : stat.run ((after.before back).before front) =
          .ok (some first) (after.before back) :=
        Recovers.stat shaped.1 firstFilled inBlock
      rw [Cursor.before_append, run_stats, run_bind, firstEq]
      change (stats >>= fun others => pure (first :: others)).run (after.before back) = _
      rw [run_bind, inductionHypothesis shaped.2 restFilled]
      cases stats.run after <;> rfl

theorem blockEnd_append (values more : Block) (after : Cursor) :
    blockEnd (values ++ more) after = prepended values (blockEnd more after) := by
  unfold blockEnd
  split <;> rfl

/-- A block may begin with spelled statements, whatever the rest of it is. -/
theorem run_block_before {values : Block} {tokens : List Token} {after : Cursor}
    (shaped : Stat.AllShaped values) (filled : Slot.Filled (Stat.writtenAll values) tokens) :
    block.run (after.before tokens) = prepended values (block.run after) := by
  have inside : stats.run { after.before tokens with depth := after.depth + 1 } =
      prepended values (stats.run { after with depth := after.depth + 1 }) :=
    @run_stats_before _ _ { after with depth := after.depth + 1 } shaped filled (Nat.succ_pos _)
  rw [run_block_eq_run_blockOf, run_block_eq_run_blockOf, run_blockOf_eq_blockEnd,
    run_blockOf_eq_blockEnd, Cursor.depth_before, inside]
  cases stats.run { after with depth := after.depth + 1 } with
  | error error after => rfl
  | ok more after => exact blockEnd_append values more _

end Rule

/-! ## What a program ends with -/

namespace Ast

theorem Stat.exists_unled_eq (stat : Stat) :
    ∃ slots, stat.unled = slots ++ [.fixed .semicolon] := by
  cases stat with
  | declare target value =>
      cases value with
      | none => exact ⟨[.kept target], rfl⟩
      | some value => exact ⟨.kept target :: .fixed .assign :: value.written, rfl⟩
  | assign target value => exact ⟨.kept target :: .fixed .assign :: value.written, rfl⟩
  | call inner => exact ⟨inner.written, rfl⟩
  | ifThen condition body =>
      rw [Stat.unled, Stat.conditionalEnd, List.append_cons]
      exact ⟨_, rfl⟩
  | ifThenElse condition body other =>
      rw [Stat.unled, Stat.conditionalEnd, List.append_cons]
      exact ⟨_, rfl⟩

/-- The last token of statements in a row is a semicolon. -/
theorem Stat.kind_of_getLast? {values : List Stat} {tokens : List Token} {last : Token}
    (filled : Slot.Filled (Stat.writtenAll values) tokens) (lastEq : tokens.getLast? = some last) :
    last.kind = .semicolon := by
  induction values generalizing tokens with
  | nil =>
      cases filled
      cases lastEq
  | cons first rest inductionHypothesis =>
      obtain ⟨front, back, firstFilled, restFilled, rfl⟩ := Slot.filled_append_iff.mp filled
      rw [List.getLast?_append] at lastEq
      cases backEq : back.getLast? with
      | some token =>
          rw [backEq] at lastEq
          cases lastEq
          exact inductionHypothesis restFilled backEq
      | none =>
          obtain ⟨slots, unledEq⟩ := first.exists_unled_eq
          rw [unledEq, ← List.append_assoc] at firstFilled
          obtain ⟨opening, closing, -, closingFilled, rfl⟩ := Slot.filled_append_iff.mp firstFilled
          obtain ⟨semicolon, others, isSemicolon, nilFilled, rfl⟩ :=
            Slot.filled_cons_iff.mp closingFilled
          cases nilFilled
          rw [backEq, Option.none_or, List.getLast?_concat] at lastEq
          cases lastEq
          exact isSemicolon

end Ast

/-! ## Token lists in a row -/

namespace ClosedTokens

/-- The tokens in front of one end marker, and then the others with theirs. -/
def append (first second : ClosedTokens) : ClosedTokens where
  body := first.body ++ second.body
  marker := second.marker
  body_kind_ne token member := by
    rcases List.mem_append.mp member with inFirst | inSecond
    · exact first.body_kind_ne token inFirst
    · exact second.body_kind_ne token inSecond
  marker_kind := second.marker_kind

theorem toList_append (first second : ClosedTokens) :
    (first.append second).toList = first.body ++ second.toList :=
  List.append_assoc _ _ _

end ClosedTokens

namespace Ast.Program

/-- Behind the tokens of a program, changed tokens of the same kinds are read as the program
and what the others are read as, with the changed tokens in it. -/
theorem ofTokens_append {first : ClosedTokens} (second : ClosedTokens) {program : Program}
    {function : Token → Token} (keeps : KeepsKinds function)
    (spells : Spells Program.Shaped Program.written program first.body) :
    ofTokens (first.append (second.map keeps)).toList =
      match Rule.block.run second.start with
      | .ok block _ => .ok ⟨program.block ++ Stat.mapAll function block⟩
      | .error error _ => .error (.parse (error.map function)) := by
  have startEq : (first.append (second.map keeps)).start =
      (second.start.map function).before first.body := rfl
  rw [ofTokens_toList, startEq,
    Rule.run_block_before spells.shaped spells.filled, Rule.Follows.block keeps second.start]
  cases Rule.block.run second.start <;> rfl

end Ast.Program

/-! ## Texts in a row -/

/-- The failure in a text that stands behind another one. -/
def Failure.behind (s : Text) : Failure → Failure
  | .scan error => .scan (error.behind s)
  | .unclosed => .unclosed
  | .parse error => .parse (error.map (Token.behind s))

theorem Token.keepsKinds_behind (s : Text) : KeepsKinds (Token.behind s) :=
  fun _ => rfl

namespace Ast.Program

/-- The tokens of a program do not fuse with a text behind it. -/
theorem endsApart_of_spells {program : Program} {body : List Token} (ending : Int) (t : Text)
    (spells : Spells Program.Shaped Program.written program body) :
    Token.EndsApart body ending t := by
  intro last lastEq _
  exact Lexeme.apart_of_semicolon (Stat.kind_of_getLast? spells.filled lastEq) t

/-- The tokens that a text has been read from are closed, and spell what has been read. -/
theorem exists_closed_of_ofSource {s : Text} {tokens : List Token} {program : Program}
    (okEq : ofSource s = .ok (tokens, program)) :
    ∃ (closed : ClosedTokens) (ending : Place), tokens = closed.body ++ [Token.endMarker ending] ∧
      Token.scan s = .ok (closed.body ++ [Token.endMarker ending]) ∧
      Spells Program.Shaped Program.written program closed.body := by
  obtain ⟨scanEq, readEq⟩ := ofSource_eq_ok_iff.mp okEq
  obtain ⟨body, ending, rfl, -⟩ := Token.scanFrom_eq_ok scanEq
  obtain ⟨closed, closedEq, spells⟩ := ofTokens_eq_ok_iff.mp readEq
  have bodyEq : closed.body = body :=
    (List.append_inj' (ClosedTokens.toList_of_ofList? closedEq) rfl).1
  subst bodyEq
  exact ⟨closed, ending, rfl, scanEq, spells⟩

/-- What is read of a text that begins with a program are the statements of the program, and
then what is read of the rest. -/
theorem ofSource_append {s t : Text} {tokens : List Token} {program : Program}
    (okEq : ofSource s = .ok (tokens, program)) :
    ofSource (s ++ t) =
      match ofSource t with
      | .ok (others, other) =>
          .ok (tokens.dropLast ++ others.map (Token.behind s),
            ⟨program.block ++ (other.map (Token.behind s)).block⟩)
      | .error failure => .error (failure.behind s) := by
  obtain ⟨first, ending, rfl, scanEq, spells⟩ := exists_closed_of_ofSource okEq
  have apart := endsApart_of_spells s.length t spells
  have wholeEq := Token.scan_append scanEq apart
  cases behindEq : Token.scan t with
  | error error =>
      rw [behindEq] at wholeEq
      rw [ofSource_of_scan_error wholeEq, ofSource_of_scan_error behindEq]
      rfl
  | ok others =>
      obtain ⟨second, secondEq⟩ := Token.exists_closed_of_scan behindEq
      obtain rfl := ClosedTokens.toList_of_ofList? secondEq
      have keeps := Token.keepsKinds_behind s
      have listEq : first.body ++ second.toList.map (Token.behind s) =
          (first.append (second.map keeps)).toList := by
        rw [ClosedTokens.toList_append, ClosedTokens.toList_map]
      have readEq := ofTokens_append second keeps spells
      rw [← listEq] at readEq
      rw [behindEq] at wholeEq
      rw [ofSource_of_scan_ok wholeEq, ofSource_of_scan_ok behindEq, readEq, ofTokens_toList,
        List.dropLast_concat]
      cases Rule.block.run second.start <;> rfl

/-- A program that ends on its second line. -/
def assigning : Text :=
  "a=\n1; ".toList

/-- The tokens of the program. -/
def assigningTokens : List Token :=
  [⟨.identifier, ['a'], ⟨0, 1, 1⟩⟩, ⟨.assign, ['='], ⟨1, 1, 2⟩⟩, ⟨.number, ['1'], ⟨3, 2, 1⟩⟩,
   ⟨.semicolon, [';'], ⟨4, 2, 2⟩⟩, ⟨.endOfInput, [], ⟨6, 2, 4⟩⟩]

/-- What the tokens are read as. -/
def assigningProgram : Program :=
  ⟨[.assign ⟨.identifier, ['a'], ⟨0, 1, 1⟩⟩
    (.single (.bare (.primary (.term ⟨.number, ['1'], ⟨3, 2, 1⟩⟩))))]⟩

theorem ofSource_append_assigning :
    ofSource assigning = .ok (assigningTokens, assigningProgram) ∧
      ofSource (assigning ++ ['b', ';']) =
        .error (.parse (.expectedToken .openParen .argsStart ⟨.semicolon, [';'], ⟨7, 2, 5⟩⟩)) := by
  have scanEq : Token.scan assigning = .ok assigningTokens := by decide +kernel
  have okEq := ofSource_eq_ok_iff.mpr
    ⟨scanEq, (rfl : ofTokens assigningTokens = .ok assigningProgram)⟩
  have behindEq : Token.scan ['b', ';'] =
      .ok [⟨.identifier, ['b'], ⟨0, 1, 1⟩⟩, ⟨.semicolon, [';'], ⟨1, 1, 2⟩⟩,
        ⟨.endOfInput, [], ⟨2, 1, 3⟩⟩] := by decide +kernel
  have wholeEq := ofSource_append (t := ['b', ';']) okEq
  rw [ofSource_of_scan_ok behindEq] at wholeEq
  exact ⟨okEq, wholeEq⟩

end Ast.Program

end Lunette
