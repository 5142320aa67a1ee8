import Retrieval.Proofs.Query.Occurrence
import Retrieval.Proofs.Query.Truth

namespace Retrieval.Query

def Connective.joinAll (c : Connective) : List Expr → Expr
  | [] => c.node []
  | e :: es => es.foldl c.join e

namespace Expr

mutual

/-- A query whose operands are joined one after the other, as they are where operators stand
between them. A first operand of the same kind does not stay apart. -/
def joined : Expr → Expr
  | .term text => .term text
  | .all es => Connective.and.joinAll (joinedList es)
  | .any es => Connective.or.joinAll (joinedList es)
  | .not e => .not (joined e)

def joinedList : List Expr → List Expr
  | [] => []
  | e :: es => joined e :: joinedList es

end

theorem joinedList_eq_map (es : List Expr) : joinedList es = es.map joined := by
  induction es with
  | nil => rfl
  | cons e es ih => rw [joinedList, ih, List.map_cons]

theorem joined_node (c : Connective) (es : List Expr) :
    (c.node es).joined = c.joinAll (es.map joined) := by
  rw [← joinedList_eq_map]
  cases c <;> rfl

theorem depth_joinAll_le (c : Connective) (es : List Expr) :
    (c.joinAll es).depth ≤ (c.node es).depth := by
  match es with
  | [] => exact Nat.le_refl _
  | [e] =>
    rw [c.depth_node, depthList, depthList, Nat.max_zero]
    exact Nat.le_succ e.depth
  | l :: r :: es =>
    have ho := c.depthList_operands_le l
    rw [Connective.joinAll, c.foldl_join_cons, c.depth_node, c.depth_node, depthList_append,
      depthList.eq_2 l]
    omega

theorem words_joinAll (c : Connective) (negated : Bool) (es : List Expr) :
    (c.joinAll es).words negated = (c.node es).words negated := by
  match es with
  | [] => rfl
  | [e] => rw [Connective.joinAll, List.foldl_nil, words_node, wordsList, wordsList, List.append_nil]
  | l :: r :: es =>
    rw [Connective.joinAll, c.foldl_join_cons, words_node, words_node, wordsList_append,
      wordsList_operands, wordsList.eq_2 _ l]

theorem holds_joinAll {v : String → Prop} (c : Connective) (es : List Expr) :
    (c.joinAll es).Holds v ↔ (c.node es).Holds v := by
  match es with
  | [] => rfl
  | [e] => cases c <;> simp [Connective.joinAll, Connective.node, Holds, HoldsAll, HoldsAny]
  | l :: r :: es => rw [Connective.joinAll, c.foldl_join_cons, holds_node_operands]

theorem depth_joined_le (e : Expr) : e.joined.depth ≤ e.depth := by
  induction e using Expr.induction with
  | term text => exact Nat.le_refl _
  | node c es ih =>
    have hs : depthList (es.map joined) ≤ depthList es := by
      rw [depthList_le_iff, List.forall_mem_map]
      exact fun e he => (ih e he).trans (depthList_le_iff.1 (Nat.le_refl _) e he)
    rw [joined_node]
    refine (depth_joinAll_le c _).trans ?_
    rw [c.depth_node, c.depth_node]
    exact Nat.succ_le_succ hs
  | not e ih =>
    rw [joined, depth, depth]
    exact Nat.succ_le_succ ih

theorem words_joined (negated : Bool) (e : Expr) : e.joined.words negated = e.words negated := by
  induction e using Expr.induction generalizing negated with
  | term text => rfl
  | node c es ih =>
    rw [joined_node, words_joinAll, words_node, words_node, wordsList_eq_flatMap,
      wordsList_eq_flatMap, List.flatMap_map]
    exact List.flatMap_congr fun e he => ih e he negated
  | not e ih =>
    rw [joined, words, words]
    exact ih _

theorem holds_joined {v : String → Prop} {e : Expr} : e.joined.Holds v ↔ e.Holds v := by
  induction e using Expr.induction with
  | term text => rfl
  | node c es ih => rw [joined_node, holds_joinAll, holds_node_map c ih]
  | not e ih => rw [joined, Holds, Holds, ih]

end Expr

end Retrieval.Query
