import Lunette.Proofs.Reading.Program
import Lunette.Session

/-!
# No token is lost in a session

Whatever phrase a session is asked for, wherever it stands and however many blocks are open,
a node that it answers with stands for the tokens that the session has moved over: written
back, the node gives their kinds one by one, and the terms of its tree are those of the
tokens that trees keep, whole and in order.  The node has the shape that its phrase
prescribes.
-/

namespace Lunette

open Ast

namespace Session

namespace Phrase

/-- The written form of what has been read for a phrase.  Declarations and conditional
statements are asked for behind their first word. -/
def written : Phrase → Node → List Slot
  | .declaration, .stat inner | .conditional, .stat inner => inner.unled
  | _, node => node.written

/-- What has been read for a phrase is of the type and the shape that the phrase prescribes.
Where a call is asked for by itself, nothing restricts what is called. -/
def Yields : Phrase → Node → Prop
  | .program, .root inner => inner.Shaped
  | .block, .block inner => Stat.AllShaped inner
  | .stat, .stat inner => inner.Shaped
  | .declaration, .stat inner => inner.lead = [.fixed .localWord] ∧ inner.Shaped
  | .conditional, .stat inner => inner.lead = [.fixed .ifWord] ∧ inner.Shaped
  | .assignment, .stat (.assign target value) => (Stat.assign target value).Shaped
  | .callStatement, .stat (.call inner) => inner.Shaped
  | .name, .term token => token.kind = .identifier
  | .exp, .exp inner | .binary, .binary inner => inner.Shaped
  | .unary, .unary inner => inner.Shaped
  | .call, .call inner => inner.Shaped
  | .primary, .primary inner => inner.Shaped
  | .args, .args inner => inner.Shaped
  | _, _ => False

/-- The account of a node that has been read for the phrase. -/
def Accounts (phrase : Phrase) (found : Option Node) (tokens : List Token) : Prop :=
  ∀ node, found = some node → phrase.Yields node ∧ Slot.Filled (phrase.written node) tokens

theorem Accounts.some {phrase : Phrase} {node : Node} {tokens : List Token}
    (yields : phrase.Yields node) (filled : Slot.Filled (phrase.written node) tokens) :
    phrase.Accounts (some node) (tokens ++ []) := by
  rintro _ ⟨⟩
  rw [List.append_nil]
  exact ⟨yields, filled⟩

/-- The rule of every phrase accounts for the tokens that it reads. -/
theorem reads_rule (phrase : Phrase) : phrase.rule.Reads phrase.Accounts := by
  cases phrase with
  | program =>
      apply Rule.Reads.block.bind
      intro block tokens spells
      exact .pure (.some spells.shaped spells.filled)
  | block =>
      apply Rule.Reads.block.bind
      intro block tokens spells
      exact .pure (.some spells.shaped spells.filled)
  | stat =>
      apply Rule.Reads.stat.bind
      rintro (_ | stat) tokens chosen
      · exact .pure nofun
      · exact .pure (.some chosen.shaped chosen.filled)
  | declaration =>
      apply Rule.Reads.declaration.bind
      rintro stat tokens ⟨isDeclaration, spells⟩
      exact .pure (.some ⟨isDeclaration, spells.shaped⟩ spells.filled)
  | conditional =>
      apply (Rule.Reads.conditionalWith Rule.Reads.block).bind
      rintro stat tokens ⟨isConditional, spells⟩
      exact .pure (.some ⟨isConditional, spells.shaped⟩ spells.filled)
  | assignment =>
      apply Rule.Reads.assignment.bind
      rintro _ tokens ⟨⟨target, value, rfl⟩, -, spells⟩
      exact .pure (.some spells.shaped spells.filled)
  | callStatement =>
      apply Rule.Reads.callStatement.bind
      rintro _ tokens ⟨inner, rfl, shaped, filled⟩
      exact .pure (.some shaped filled)
  | name =>
      apply Rule.Reads.name.bind
      rintro token _ ⟨isName, rfl⟩
      exact .pure (.some isName (.cons rfl .nil))
  | exp =>
      apply Rule.Reads.exp.bind
      intro exp tokens spells
      exact .pure (.some spells.shaped spells.filled)
  | binary =>
      apply Rule.Reads.exp.bind
      intro exp tokens spells
      exact .pure (.some spells.shaped spells.filled)
  | unary =>
      apply (Rule.Reads.unaryWith Rule.Reads.exp).bind
      intro unary tokens spells
      exact .pure (.some spells.shaped spells.filled)
  | call =>
      apply (Rule.Reads.callWith Rule.Reads.exp).bind
      intro call tokens spells
      exact .pure (.some spells.shaped spells.filled)
  | primary =>
      apply (Rule.Reads.primaryWith Rule.Reads.exp).bind
      intro primary tokens spells
      exact .pure (.some spells.shaped spells.filled)
  | args =>
      apply (Rule.Reads.argsWith Rule.Reads.exp).bind
      intro args tokens spells
      exact .pure (.some spells.shaped spells.filled)

theorem Yields.allProper {phrase : Phrase} {node : Node} (yields : phrase.Yields node) :
    Slot.AllProper (phrase.written node) := by
  unfold Yields at yields
  split at yields
  · exact Stat.AllShaped.allProper yields
  · exact Stat.AllShaped.allProper yields
  · exact Slot.allProper_append.mpr ⟨Stat.allProper_lead _, yields.allProper⟩
  · exact yields.2.allProper
  · exact yields.2.allProper
  · exact Stat.Shaped.allProper yields
  · exact Stat.allProper_call yields
  · exact allProper_name yields
  · exact Exp.Shaped.allProper yields
  · exact Exp.Shaped.allProper yields
  · exact Unary.Shaped.allProper yields
  · exact Call.Shaped.allProper yields
  · exact Primary.Shaped.allProper yields
  · exact Args.Shaped.allProper yields
  · cases yields

/-- The terms of a node's tree are the tokens kept in what has been read for its phrase. -/
theorem terms_tree (phrase : Phrase) (node : Node) :
    node.tree.terms = (phrase.written node).filterMap Slot.token? := by
  unfold written
  split
  · exact Stat.terms_tree _
  · exact Stat.terms_tree _
  · exact node.terms_tree

end Phrase

end Session

namespace ClosedTokens

/-- The tokens from one index up to another. -/
def slice (tokens : ClosedTokens) (start stop : Nat) : List Token :=
  (tokens.toList.drop start).take (stop - start)

/-- What stands between an index and the rest that is left is the slice between them. -/
theorem slice_eq_of_drop {tokens : ClosedTokens} {start : Nat} {read rest : List Token}
    (inRange : start ≤ tokens.body.length) (dropEq : tokens.body.drop start = read ++ rest) :
    tokens.body.length - rest.length = start + read.length ∧
      tokens.slice start (start + read.length) = read := by
  constructor
  · have lengths := congrArg List.length dropEq
    rw [List.length_drop, List.length_append] at lengths
    omega
  · rw [slice, toList, List.drop_append_of_le_length inRange, dropEq, Nat.add_sub_cancel_left,
      List.append_assoc, List.take_left]

end ClosedTokens

namespace Session

theorem answer_read (session : Session) (phrase : Phrase) :
    session.answer (.read phrase) =
      (session.startOf phrase).run do
        match ← phrase.rule with
        | some node => return .node node
        | none => return .nothing :=
  rfl

theorem answer_read_eq_ok {session after : Session} {phrase : Phrase} {node : Node}
    (answered : session.answer (.read phrase) = (.ok (.node node), after)) :
    ∃ cursor, phrase.rule.run (session.startOf phrase).cursor = .ok (some node) cursor ∧
      after = (session.startOf phrase).moveTo cursor := by
  rw [answer_read, run, Rule.run_bind] at answered
  cases ruleEq : phrase.rule.run (session.startOf phrase).cursor with
  | error error cursor =>
      rw [ruleEq] at answered
      cases answered
  | ok found cursor =>
      rw [ruleEq] at answered
      cases found with
      | none => cases answered
      | some node =>
          cases answered
          exact ⟨cursor, rfl, rfl⟩

/-- A session that has read a program stands at the end marker. -/
theorem rest_eq_nil_of_program {tokens : ClosedTokens} {found : Option Node} {cursor : Cursor}
    (ruleEq : Phrase.program.rule.run (start tokens).cursor = .ok found cursor) :
    cursor.rest = [] := by
  change (Rule.block >>= fun block => pure (some (Node.root ⟨block⟩))).run tokens.start = _
    at ruleEq
  rw [Rule.run_bind] at ruleEq
  cases blockEq : Rule.block.run tokens.start with
  | error error between =>
      rw [blockEq] at ruleEq
      cases ruleEq
  | ok block between =>
      rw [blockEq] at ruleEq
      cases ruleEq
      have readEq : Program.read tokens = .ok ⟨block⟩ cursor :=
        Program.read_eq_ok_iff_block.mpr blockEq
      rw [(Program.read_eq_ok_iff.mp readEq).2]

/-- The session has moved over the tokens that the node stands for. -/
structure MovedOver (session : Session) (phrase : Phrase) (node : Node) (after : Session) :
    Prop where
  /-- The tokens are the same ones. -/
  tokens : after.tokens = session.tokens
  /-- The session has not moved back. -/
  forward : (session.startOf phrase).position ≤ after.position
  /-- The session has not moved past the end marker. -/
  inRange : after.position ≤ session.tokens.body.length
  /-- Written back, the node gives the kinds of the tokens. -/
  kinds : (phrase.written node).map Slot.kind =
    (session.tokens.slice (session.startOf phrase).position after.position).map Token.kind
  /-- The terms of the node are the names, literals and operators among the tokens. -/
  terms : node.tree.terms =
    (session.tokens.slice (session.startOf phrase).position after.position).filter
      (·.kind.isKept)
  /-- The node has the shape that the phrase prescribes. -/
  yields : phrase.Yields node
  /-- A program is all of the tokens. -/
  whole : phrase = .program →
    (session.startOf phrase).position = 0 ∧ after.position = session.tokens.body.length

/-- A session that answers with a node has moved over the tokens that the node stands for. -/
theorem movedOver_of_answer {session after : Session} {phrase : Phrase} {node : Node}
    (inRange : session.position ≤ session.tokens.body.length)
    (answered : session.answer (.read phrase) = (.ok (.node node), after)) :
    MovedOver session phrase node after := by
  rcases answer_read_eq_ok answered with ⟨cursor, ruleEq, rfl⟩
  rcases phrase.reads_rule.account ruleEq with ⟨read, restEq, accounts⟩
  rcases accounts node rfl with ⟨yields, filled⟩
  have tokensEq : (session.startOf phrase).tokens = session.tokens := by
    cases phrase <;> rfl
  have startInRange : (session.startOf phrase).position ≤ session.tokens.body.length := by
    cases phrase <;> first | exact inRange | exact Nat.zero_le _
  have dropEq : session.tokens.body.drop (session.startOf phrase).position =
      read ++ cursor.rest := by
    rw [← tokensEq]
    exact restEq
  rcases ClosedTokens.slice_eq_of_drop startInRange dropEq with ⟨stopEq, sliceEq⟩
  have positionEq : ((session.startOf phrase).moveTo cursor).position =
      (session.startOf phrase).position + read.length := by
    rw [← stopEq, ← tokensEq]
    rfl
  constructor
  case tokens => exact tokensEq
  case forward =>
    rw [positionEq]
    exact Nat.le_add_right _ _
  case inRange =>
    rw [positionEq, ← stopEq]
    exact Nat.sub_le _ _
  case kinds => rw [positionEq, sliceEq, filled.map_kind]
  case terms => rw [positionEq, sliceEq, filled.filter_isKept yields.allProper, phrase.terms_tree]
  case yields => exact yields
  case whole =>
    rintro rfl
    have restNil := rest_eq_nil_of_program ruleEq
    rw [positionEq, ← stopEq, restNil]
    exact ⟨rfl, rfl⟩

/-- A session behind the word `if`, with one block open. -/
def insideConditional : Session where
  tokens :=
    { body :=
        [⟨.ifWord, "if".toList, ⟨0, 1, 1⟩⟩, ⟨.identifier, "x".toList, ⟨3, 1, 4⟩⟩,
         ⟨.thenWord, "then".toList, ⟨5, 1, 6⟩⟩, ⟨.identifier, "f".toList, ⟨10, 2, 1⟩⟩,
         ⟨.openParen, "(".toList, ⟨11, 2, 2⟩⟩, ⟨.minus, "-".toList, ⟨12, 2, 3⟩⟩,
         ⟨.number, "1".toList, ⟨13, 2, 4⟩⟩, ⟨.closeParen, ")".toList, ⟨14, 2, 5⟩⟩,
         ⟨.semicolon, ";".toList, ⟨15, 2, 6⟩⟩, ⟨.endWord, "end".toList, ⟨17, 3, 1⟩⟩,
         ⟨.semicolon, ";".toList, ⟨20, 3, 4⟩⟩, ⟨.endWord, "end".toList, ⟨22, 4, 1⟩⟩]
      marker := ⟨.endOfInput, [], ⟨25, 4, 4⟩⟩
      body_kind_ne := by decide
      marker_kind := rfl }
  position := 1
  depth := 1

/-- What the session behind the word `if` answers with. -/
def conditionalNode : Node :=
  .stat (.ifThen (.single (.bare (.primary (.term ⟨.identifier, "x".toList, ⟨3, 1, 4⟩⟩))))
    [.call (.of (.term ⟨.identifier, "f".toList, ⟨10, 2, 1⟩⟩)
      (.one (.single (.prefixed ⟨.minus, "-".toList, ⟨12, 2, 3⟩⟩
        (.unary (.bare (.primary (.term ⟨.number, "1".toList, ⟨13, 2, 4⟩⟩))))))))])

theorem movedOver_insideConditional :
    insideConditional.position ≤ insideConditional.tokens.body.length ∧
      insideConditional.answer (.read .conditional) =
        (.ok (.node conditionalNode), { insideConditional with position := 11 }) ∧
      MovedOver insideConditional .conditional conditionalNode
        { insideConditional with position := 11 } :=
  ⟨by decide, rfl, movedOver_of_answer (by decide) rfl⟩

end Session

end Lunette
