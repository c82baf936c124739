import Lunette.Proofs.Json.Written
import Lunette.Proofs.Tree.Name
import Lunette.Proofs.Tree.Phrase
import Lunette.Tree.Exchange

/-!
# The JSON text tells nodes apart

A node becomes a value with its kind, its token and its children, and the value is written as
JSON text that is read back as the same value.  Only the offsets of tokens are left out.
-/

namespace Lunette

/-- The token without its offset. -/
def Token.unindexed (token : Token) : Token :=
  { token with place := { token.place with offset := 0 } }

namespace Token

/-- Tokens with the same value are the same but for their offsets. -/
theorem unindexed_eq_of_toJson {first second : Token} (same : first.toJson = second.toJson) :
    first.unindexed = second.unindexed := by
  rcases first with ⟨kind, lexeme, offset, line, column⟩
  rcases second with ⟨kind', lexeme', offset', line', column'⟩
  simp only [toJson, Json.object.injEq, List.cons.injEq, Prod.mk.injEq, Json.text.injEq,
    Json.integer.injEq, true_and, and_true] at same
  rcases same with ⟨nameEq, rfl, rfl, rfl⟩
  cases Kind.name_injective nameEq
  rfl

end Token

namespace Tree

theorem node_inj {kind kind' : NodeKind} {terminal terminal' : Json}
    {children children' : List Json} :
    node kind terminal children = node kind' terminal' children' ↔
      kind = kind' ∧ terminal = terminal' ∧ children = children' := by
  simp [node, NodeKind.name_injective.eq_iff]

mutual

theorem toJson_map_unindexed : ∀ tree : Tree,
    (tree.map Token.unindexed).toJson = tree.toJson
  | .leaf _ => rfl
  | .branch kind children => by
      rw [map, toJson, toJson, toJsonAll_mapAll_unindexed children]

theorem toJsonAll_mapAll_unindexed : ∀ trees : List Tree,
    toJsonAll (mapAll Token.unindexed trees) = toJsonAll trees
  | [] => rfl
  | tree :: rest => by
      rw [mapAll, toJsonAll, toJsonAll, toJson_map_unindexed tree,
        toJsonAll_mapAll_unindexed rest]

end

mutual

theorem map_unindexed_eq_of_toJson : ∀ {first second : Tree}, first.toJson = second.toJson →
    first.map Token.unindexed = second.map Token.unindexed
  | .leaf token, .leaf token', same => by
      rw [map, map, Token.unindexed_eq_of_toJson (node_inj.mp same).2.1]
  | .leaf _, .branch _ _, same => nomatch (node_inj.mp same).2.1
  | .branch _ _, .leaf _, same => nomatch (node_inj.mp same).2.1
  | .branch kind children, .branch kind' children', same => by
      rcases node_inj.mp same with ⟨kindEq, -, childrenEq⟩
      rw [map, map, kindEq, mapAll_unindexed_eq_of_toJsonAll childrenEq]

theorem mapAll_unindexed_eq_of_toJsonAll : ∀ {first second : List Tree},
    toJsonAll first = toJsonAll second →
    mapAll Token.unindexed first = mapAll Token.unindexed second
  | [], [], _ => rfl
  | [], _ :: _, same => nomatch same
  | _ :: _, [], same => nomatch same
  | _ :: _, _ :: _, same => by
      rcases List.cons.inj same with ⟨treeEq, restEq⟩
      rw [mapAll, mapAll, map_unindexed_eq_of_toJson treeEq,
        mapAll_unindexed_eq_of_toJsonAll restEq]

end

/-- Trees with the same value are the same but for the offsets of their tokens. -/
theorem toJson_eq_iff {first second : Tree} :
    first.toJson = second.toJson ↔ first.map Token.unindexed = second.map Token.unindexed := by
  constructor
  · exact map_unindexed_eq_of_toJson
  · intro same
    rw [← toJson_map_unindexed, same, toJson_map_unindexed]

end Tree

namespace Ast.Node

/-- The JSON text of a node is ASCII without controls other than line feeds, it stands for the
value of the node and for no other one, and it tells the node up to the offsets of tokens. -/
theorem faithful_toText (node : Node) :
    (∀ c ∈ node.tree.toJson.toText, c.toNat < 0x80 ∧ (c.toNat < 0x20 → c = '\n')) ∧
      (∀ value : Json, node.tree.toJson.toText ∈ value.texts ↔ value = node.tree.toJson) ∧
      ∀ other : Node, other.tree.toJson.toText = node.tree.toJson.toText ↔
        other.map Token.unindexed = node.map Token.unindexed := by
  refine ⟨?_, fun _ => Json.toText_mem_texts_iff, ?_⟩
  · intro c member
    have written := (Json.plain_toText node.tree.toJson).2 c member
    simp only [Json.isWritten, Bool.or_eq_true, Bool.and_eq_true, decide_eq_true_eq] at written
    rcases written with rfl | ⟨noControl, isAscii⟩
    · exact ⟨by decide, fun _ => rfl⟩
    · exact ⟨isAscii, fun isControl => absurd isControl (Nat.not_lt.mpr noControl)⟩
  · intro other
    rw [Json.toText_injective.eq_iff, Tree.toJson_eq_iff, ← tree_map, ← tree_map]
    exact tree_injective.eq_iff

end Ast.Node

end Lunette
