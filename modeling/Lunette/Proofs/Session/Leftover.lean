import Lunette.Proofs.Session.Dependence

/-!
# Tokens left over behind a program

The statements of a program are read one after another until none starts.  A token other than
the end marker is then left over, and it is reported as such exactly where the tokens in front
of it are a program by themselves and no statement starts at it.  A statement also starts where
an assignment sign stands behind the token, whatever the token is.  All other programs that
cannot be read want for a token.
-/

namespace Lunette

open Ast

namespace Rule

variable {cursor after : Cursor}

/-! ## Where statements end -/

/-- A rule that has read something does not say that there was nothing. -/
theorem run_map_some_ne {α : Type} (rule : Rule α) :
    (some <$> rule).run cursor ≠ .ok none after := by
  change (rule >>= fun value => Pure.pure (some value)).run cursor ≠ _
  rw [run_bind]
  split <;> nofun

/-- Where no statement is read none starts, and nothing is read. -/
theorem endsBlock_of_stat (noneEq : stat.run cursor = .ok none after) :
    after = cursor ∧ EndsBlock cursor := by
  by_cases isLocal : cursor.kind = .localWord
  · unfold stat statWith at noneEq
    rw [run_bind, run_accept, if_pos (decide_eq_true isLocal)] at noneEq
    exact absurd noneEq (run_map_some_ne _)
  by_cases isIf : cursor.kind = .ifWord
  · unfold stat statWith at noneEq
    rw [run_bind, run_accept, if_neg (by simpa using isLocal)] at noneEq
    dsimp only at noneEq
    rw [run_bind, run_accept, if_pos (decide_eq_true isIf)] at noneEq
    exact absurd noneEq (run_map_some_ne _)
  rw [run_stat_of_ne isLocal isIf] at noneEq
  split_ifs at noneEq with isAssign isCall
  · exact absurd noneEq (run_map_some_ne _)
  · exact absurd noneEq (run_map_some_ne _)
  · cases noneEq
    exact ⟨rfl, isLocal, isIf, isAssign, isCall⟩

/-- Behind as many statements as are bounded by the tokens none starts. -/
theorem endsBlock_of_statsWithin {bound : Nat} {values : Block}
    (within : cursor.rest.length ≤ bound)
    (okEq : (statsWithin stat bound).run cursor = .ok values after) : EndsBlock after := by
  induction bound generalizing cursor values with
  | zero =>
      cases okEq
      exact endsBlock_of_nil (List.length_eq_zero_iff.mp (Nat.le_zero.mp within))
  | succ bound inductionHypothesis =>
      unfold statsWithin at okEq
      rw [run_bind] at okEq
      cases statEq : stat.run cursor with
      | error error between =>
          rw [statEq] at okEq
          cases okEq
      | ok found between =>
          rw [statEq] at okEq
          cases found with
          | none =>
              obtain ⟨rfl, ends⟩ := endsBlock_of_stat statEq
              cases okEq
              exact ends
          | some first =>
              have fewer := length_lt_of_statWith .block statEq
              dsimp only at okEq
              rw [run_bind] at okEq
              cases moreEq : (statsWithin stat bound).run between with
              | error error last =>
                  rw [moreEq] at okEq
                  cases okEq
              | ok others last =>
                  rw [moreEq] at okEq
                  cases okEq
                  exact inductionHypothesis (by omega) moreEq

/-- Behind statements that have been read none starts. -/
theorem endsBlock_of_stats {values : Block} (okEq : stats.run cursor = .ok values after) :
    EndsBlock after :=
  endsBlock_of_statsWithin (Nat.le_refl _) okEq

end Rule

namespace ClosedTokens

variable {tokens : ClosedTokens} {marker : Token} {index : Nat}

/-- The tokens in front of the index, closed by a marker. -/
def upTo (tokens : ClosedTokens) (index : Nat) (isMarker : marker.kind = .endOfInput) :
    ClosedTokens where
  body := tokens.body.take index
  marker := marker
  body_kind_ne token member := tokens.body_kind_ne token (List.mem_of_mem_take member)
  marker_kind := isMarker

theorem toList_upTo (isMarker : marker.kind = .endOfInput) (inRange : index ≤ tokens.body.length) :
    (tokens.upTo index isMarker).toList = tokens.toList.take index ++ [marker] := by
  have front : tokens.toList.take index = tokens.body.take index :=
    List.take_append_of_le_length inRange
  rw [front]
  rfl

end ClosedTokens

namespace Session

variable {tokens : ClosedTokens} {marker found : Token} {index depth : Nat}

/-- The tokens in front of the index are a program if the marker ends them, and the token with
the index is one at which no statement starts. -/
structure LeftOver (tokens : ClosedTokens) (marker : Token) (index : Nat) (found : Token) :
    Prop where
  /-- The token has the index. -/
  here : tokens.toList[index]? = some found
  /-- What stands in front of it is a program. -/
  program : ∃ program, Program.ofTokens (tokens.toList.take index ++ [marker]) = .ok program
  /-- It is not the end marker, and no statement begins with it. -/
  stray : found.kind ∉ [Kind.endOfInput, .localWord, .ifWord, .identifier, .openParen]
  /-- It is not assigned to. -/
  notAssigned : tokens.toList[index + 1]?.map Token.kind ≠ some .assign

theorem LeftOver.lt_length (leftOver : LeftOver tokens marker index found) :
    index < tokens.body.length := by
  have inside := (List.getElem?_eq_some_iff.mp leftOver.here).1
  rw [ClosedTokens.length_toList, ClosedTokens.size] at inside
  by_contra atEnd
  have isLast : index = tokens.body.length := by omega
  have markerEq := leftOver.here
  rw [ClosedTokens.getElem?_toList (Nat.le_of_eq isLast), isLast, List.drop_length] at markerEq
  have isMarker : tokens.marker = found := Option.some.inj markerEq
  apply leftOver.stray
  rw [← isMarker, tokens.marker_kind]
  exact List.mem_cons_self

/-- In front of an index stands a program exactly if its statements are spelled there. -/
theorem ofTokens_take_eq_ok_iff {program : Program} (isMarker : marker.kind = .endOfInput)
    (inRange : index ≤ tokens.body.length) :
    Program.ofTokens (tokens.toList.take index ++ [marker]) = .ok program ↔
      Spells Program.Shaped Program.written program (tokens.body.take index) := by
  rw [← ClosedTokens.toList_upTo isMarker inRange, Program.ofTokens_eq_ok_iff,
    ClosedTokens.ofList?_toList]
  constructor
  · rintro ⟨closed, closedEq, spells⟩
    cases closedEq
    exact spells
  · intro spells
    exact ⟨_, rfl, spells⟩

/-- An assignment sign stands behind the index exactly if it does so for the cursor there. -/
theorem nextKind_cursor_eq_assign_iff (inRange : index ≤ tokens.body.length) :
    (Session.cursor ⟨tokens, index, depth⟩).nextKind = .assign ↔
      tokens.toList[index + 1]?.map Token.kind = some .assign := by
  rw [nextKind_cursor inRange]
  cases tokens.toList[index + 1]?.map Token.kind <;> simp

theorem kind_cursor (here : tokens.toList[index]? = some found) :
    (Session.cursor ⟨tokens, index, depth⟩).kind = found.kind := by
  have inside := (List.getElem?_eq_some_iff.mp here).1
  rw [ClosedTokens.length_toList, ClosedTokens.size] at inside
  rw [ClosedTokens.getElem?_toList (Nat.le_of_lt_succ inside)] at here
  rw [← Cursor.kind_current tokens.marker_kind]
  exact congrArg Token.kind (Option.some.inj here)

/-- No statement starts at a token that is left over. -/
theorem LeftOver.endsBlock (leftOver : LeftOver tokens marker index found) :
    Rule.EndsBlock (Session.cursor ⟨tokens, index, depth⟩) := by
  have kindEq := @kind_cursor tokens found index depth leftOver.here
  have stray := leftOver.stray
  simp only [List.mem_cons, List.not_mem_nil, or_false, not_or] at stray
  obtain ⟨-, notLocal, notIf, notName, notOpen⟩ := stray
  constructor
  case notLocal => rwa [kindEq]
  case notIf => rwa [kindEq]
  case notAssign =>
    intro isAssign
    exact leftOver.notAssigned
      ((nextKind_cursor_eq_assign_iff (Nat.le_of_lt leftOver.lt_length)).mp isAssign)
  case notCall =>
    rw [kindEq]
    exact not_or.mpr ⟨notOpen, notName⟩

/-- A token that is reported as left over is so, and no block is open there. -/
theorem leftOver_of_failsAt (isMarker : marker.kind = .endOfInput)
    (fails : FailsAt tokens (.unexpectedTopLevel found) index depth) :
    depth = 0 ∧ LeftOver tokens marker index found := by
  obtain ⟨inRange, errorEq⟩ := failsAt_iff.mp fails
  rw [Rule.run_block_eq_run_blockOf] at errorEq
  rcases Rule.run_blockOf_eq_error .stats errorEq with inside | outermost
  · obtain ⟨_, _, _, _, demandEq, -⟩ := Rule.Demands.stats (Nat.succ_pos _) _ _ inside
    cases demandEq
  obtain ⟨-, isClosed, notEnd, -, values, statsEq⟩ := outermost
  have here := fails.getElem?_eq
  have kindEq := @kind_cursor tokens found index depth here
  obtain ⟨read, restEq, spells⟩ := Rule.Reads.stats.account statsEq
  have ends := Rule.endsBlock_of_stats statsEq
  have readEq : read = tokens.body.take index := by
    have bodyEq := tokens.body.take_append_drop index
    exact List.append_cancel_right (restEq.symm.trans bodyEq.symm)
  refine ⟨isClosed, here, ⟨⟨values⟩, ?_⟩, ?_, ?_⟩
  · rw [ofTokens_take_eq_ok_iff isMarker inRange, ← readEq]
    exact ⟨spells.shaped, spells.filled⟩
  · have notLocal : found.kind ≠ .localWord := kindEq ▸ ends.notLocal
    have notIf : found.kind ≠ .ifWord := kindEq ▸ ends.notIf
    have notCall : ¬ (found.kind = .openParen ∨ found.kind = .identifier) := kindEq ▸ ends.notCall
    rw [kindEq] at notEnd
    rw [not_or] at notCall
    simp [notEnd, notLocal, notIf, notCall.1, notCall.2]
  · intro isAssign
    exact ends.notAssign ((@nextKind_cursor_eq_assign_iff tokens index depth inRange).mpr isAssign)

/-- A token that is left over is reported. -/
theorem LeftOver.failsAt (isMarker : marker.kind = .endOfInput)
    (leftOver : LeftOver tokens marker index found) :
    FailsAt tokens (.unexpectedTopLevel found) index 0 := by
  have inRange := Nat.le_of_lt leftOver.lt_length
  obtain ⟨program, programEq⟩ := leftOver.program
  have spells := (ofTokens_take_eq_ok_iff isMarker inRange).mp programEq
  have recovers : Rule.Recovers Rule.stats _ program.block (Session.cursor ⟨tokens, index, 1⟩) :=
    .stats spells.shaped spells.filled leftOver.endsBlock (Nat.succ_pos _)
  have startEq : (Session.cursor ⟨tokens, index, 1⟩).before (tokens.body.take index) =
      { tokens.start with depth := 1 } := by
    rw [Cursor.before, Session.cursor, List.take_append_drop]
    rfl
  rw [Rule.Recovers, startEq] at recovers
  have statsEq : Rule.stats.run { tokens.start with depth := tokens.start.depth + 1 } =
      .ok program.block (Session.cursor ⟨tokens, index, 1⟩) := recovers
  have notEnd : (Session.cursor ⟨tokens, index, 0⟩).kind ≠ .endOfInput := by
    rw [kind_cursor leftOver.here]
    exact fun isEnd => leftOver.stray (isEnd ▸ List.mem_cons_self)
  have current : (Session.cursor ⟨tokens, index, 0⟩).current = found := by
    have here := leftOver.here
    rw [ClosedTokens.getElem?_toList inRange] at here
    exact Option.some.inj here
  refine failsAt_iff.mpr ⟨inRange, ?_⟩
  rw [Rule.run_block_eq_run_blockOf, Rule.run_blockOf, statsEq, ← current]
  exact if_pos ⟨rfl, notEnd⟩

/-- A token is reported as left over exactly where it is left over behind a program.  A program
that cannot be read for another reason wants for a token. -/
theorem failsAt_unexpectedTopLevel_iff (tokens : ClosedTokens)
    (isMarker : marker.kind = .endOfInput) :
    (∀ found index depth, FailsAt tokens (.unexpectedTopLevel found) index depth ↔
      depth = 0 ∧ LeftOver tokens marker index found) ∧
    ∀ failure, Program.ofTokens tokens.toList = .error failure →
      (∀ index found, ¬ LeftOver tokens marker index found) →
        ∃ expected purpose found index depth,
          failure = .parse (.expectedToken expected purpose found) ∧
            FailsAt tokens (.expectedToken expected purpose found) index depth := by
  have leftOverIff : ∀ found index depth,
      FailsAt tokens (.unexpectedTopLevel found) index depth ↔
        depth = 0 ∧ LeftOver tokens marker index found := by
    intro found index depth
    constructor
    · exact leftOver_of_failsAt isMarker
    · rintro ⟨rfl, leftOver⟩
      exact leftOver.failsAt isMarker
  refine ⟨leftOverIff, fun failure refused noneLeft => ?_⟩
  cases failure with
  | scan error =>
      rw [Program.ofTokens_toList] at refused
      split at refused <;> cases refused
  | unclosed =>
      rw [Program.ofTokens_toList] at refused
      split at refused <;> cases refused
  | parse error =>
      obtain ⟨index, depth, fails⟩ := ofTokens_eq_parse_iff.mp refused
      cases error with
      | expectedToken expected purpose found =>
          exact ⟨expected, purpose, found, index, depth, rfl, fails⟩
      | unexpectedTopLevel found =>
          exact absurd ((leftOverIff found index depth).mp fails).2 (noneLeft index found)

/-- The tokens of `local x; end;`, in which a word that ends a body is left over. -/
def strayEnd : ClosedTokens where
  body :=
    [⟨.localWord, "local".toList, ⟨0, 1, 1⟩⟩, ⟨.identifier, ['x'], ⟨6, 1, 7⟩⟩,
     ⟨.semicolon, [';'], ⟨7, 1, 8⟩⟩, ⟨.endWord, "end".toList, ⟨9, 1, 10⟩⟩,
     ⟨.semicolon, [';'], ⟨12, 1, 13⟩⟩]
  marker := ⟨.endOfInput, [], ⟨13, 1, 14⟩⟩
  body_kind_ne := by decide
  marker_kind := rfl

/-- The word that is left over. -/
def strayWord : Token :=
  ⟨.endWord, "end".toList, ⟨9, 1, 10⟩⟩

theorem failsAt_unexpectedTopLevel_strayEnd :
    strayEnd.marker.kind = .endOfInput ∧
      FailsAt strayEnd (.unexpectedTopLevel strayWord) 3 0 ∧
      LeftOver strayEnd strayEnd.marker 3 strayWord := by
  have fails : FailsAt strayEnd (.unexpectedTopLevel strayWord) 3 0 := rfl
  have reported := (failsAt_unexpectedTopLevel_iff strayEnd strayEnd.marker_kind).1 strayWord 3 0
  exact ⟨strayEnd.marker_kind, fails, (reported.mp fails).2⟩

end Session

end Lunette
