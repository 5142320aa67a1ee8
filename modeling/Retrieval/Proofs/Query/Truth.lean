import Mathlib.Tactic.Tauto
import Retrieval.Query.Evaluation
import Retrieval.Proofs.Index.Consistency
import Retrieval.Proofs.Query.Connective

namespace Retrieval.Query.Expr

open Index

mutual

/-- Whether a query is true where some of its terms are. -/
def Holds (v : String → Prop) : Expr → Prop
  | .term text => v text
  | .all es => HoldsAll v es
  | .any es => HoldsAny v es
  | .not e => ¬Holds v e

def HoldsAll (v : String → Prop) : List Expr → Prop
  | [] => True
  | e :: es => Holds v e ∧ HoldsAll v es

def HoldsAny (v : String → Prop) : List Expr → Prop
  | [] => False
  | e :: es => Holds v e ∨ HoldsAny v es

end

theorem holdsAll_iff {v : String → Prop} {es : List Expr} :
    HoldsAll v es ↔ ∀ e ∈ es, e.Holds v := by
  induction es with
  | nil => simp [HoldsAll]
  | cons e es ih => simp [HoldsAll, ih]

theorem holdsAny_iff {v : String → Prop} {es : List Expr} :
    HoldsAny v es ↔ ∃ e ∈ es, e.Holds v := by
  induction es with
  | nil => simp [HoldsAny]
  | cons e es ih => simp [HoldsAny, ih]

theorem holds_all {v : String → Prop} {es : List Expr} :
    (Expr.all es).Holds v ↔ ∀ e ∈ es, e.Holds v :=
  holdsAll_iff

theorem holds_any {v : String → Prop} {es : List Expr} :
    (Expr.any es).Holds v ↔ ∃ e ∈ es, e.Holds v :=
  holdsAny_iff

theorem holds_node_congr {v : String → Prop} (c : Connective) {es es' : List Expr}
    (h : ∀ e, e ∈ es ↔ e ∈ es') : (c.node es).Holds v ↔ (c.node es').Holds v := by
  cases c with
  | and => simp only [Connective.node, holds_all, h]
  | or => simp only [Connective.node, holds_any, h]

theorem holds_node_map {v : String → Prop} (c : Connective) {f : Expr → Expr} {es : List Expr}
    (h : ∀ e ∈ es, ((f e).Holds v ↔ e.Holds v)) :
    (c.node (es.map f)).Holds v ↔ (c.node es).Holds v := by
  cases c with
  | and =>
    rw [Connective.node, holds_all, holds_all, List.forall_mem_map]
    exact forall₂_congr h
  | or =>
    rw [Connective.node, holds_any, holds_any]
    simp only [List.mem_map, exists_exists_and_eq_and]
    exact exists_congr fun e => and_congr_right (h e)

theorem holds_node_operands {v : String → Prop} (c : Connective) (l : Expr) (es : List Expr) :
    (c.node (c.operands l ++ es)).Holds v ↔ (c.node (l :: es)).Holds v := by
  rcases c.operands_cases l with ⟨es', rfl⟩ | h
  · rw [c.operands_node]
    cases c with
    | and => simp only [Connective.node, holds_all, List.forall_mem_append, List.forall_mem_cons]
    | or => simp [Connective.node, holds_any, or_and_right, exists_or]
  · rw [h, List.singleton_append]

theorem holds_distinct {v : String → Prop} {e : Expr} : e.distinct.Holds v ↔ e.Holds v := by
  induction e using Expr.induction with
  | term text => rfl
  | node c es ih =>
    rw [c.distinct_node, holds_node_congr c fun e => mem_withoutRepeats, distinctList_eq_map,
      holds_node_map c ih]
  | not e ih => rw [distinct, Holds, Holds, ih]

mutual

/-- The documents of a query are those that it is true of. A conjunction without operands would be
true of all documents but finds none. -/
theorem mem_evaluate {ix : Index} (hc : ix.Consistent) (d : DocId) : (e : Expr) → e.Proper →
    (d ∈ e.evaluate ix ↔ d ∈ ix.allDocuments ∧
      e.Holds fun text => d ∈ ix.documents (ix.preprocessor.term text))
  | .term text, _ => by
    rw [evaluate, Holds]
    exact ⟨fun h => ⟨hc.documents_subset h, h⟩, fun h => h.2⟩
  | .not e, he => by
    rw [evaluate, Holds, DocList.mem_not, mem_evaluate hc d e he]
    tauto
  | .all [], he => absurd rfl he.1
  | .all (e :: es), he => by
    rw [evaluate, Holds, HoldsAll]
    have h := mem_evaluate hc d e he.2.1
    rw [mem_evaluateAll hc d es he.2.2 (evaluate ix e) (fun hd => (h.1 hd).1), h]
    tauto
  | .any es, he => by
    rw [evaluate, Holds, mem_evaluateAny hc d es he.2]
    simp

theorem mem_evaluateAll {ix : Index} (hc : ix.Consistent) (d : DocId) : (es : List Expr) →
    ProperList es → (found : DocList) → (d ∈ found → d ∈ ix.allDocuments) →
    (d ∈ evaluateAll ix found es ↔ d ∈ found ∧
      HoldsAll (fun text => d ∈ ix.documents (ix.preprocessor.term text)) es)
  | [], _, found, _ => by
    rw [evaluateAll, HoldsAll]
    simp
  | e :: es, he, found, hf => by
    rw [evaluateAll, HoldsAll]
    have h := mem_evaluate hc d e he.1
    split
    · next hempty =>
      have hn := DocList.not_mem_of_isEmpty hempty d
      tauto
    · have hf' : d ∈ found.and (evaluate ix e) → d ∈ ix.allDocuments := fun hd =>
        hf (DocList.mem_and.1 hd).1
      rw [mem_evaluateAll hc d es he.2 _ hf', DocList.mem_and, h]
      tauto

theorem mem_evaluateAny {ix : Index} (hc : ix.Consistent) (d : DocId) : (es : List Expr) →
    ProperList es → (found : DocList) →
    (d ∈ evaluateAny ix found es ↔ d ∈ found ∨ d ∈ ix.allDocuments ∧
      HoldsAny (fun text => d ∈ ix.documents (ix.preprocessor.term text)) es)
  | [], _, found => by
    rw [evaluateAny, HoldsAny]
    simp
  | e :: es, he, found => by
    have h := mem_evaluate hc d e he.1
    rw [evaluateAny, HoldsAny, mem_evaluateAny hc d es he.2, DocList.mem_or, h]
    tauto

end

theorem evaluate_eq_of_holds_iff {ix : Index} (hc : ix.Consistent) {e e' : Expr} (he : e.Proper)
    (he' : e'.Proper) (h : ∀ v, e.Holds v ↔ e'.Holds v) : e.evaluate ix = e'.evaluate ix := by
  apply DocList.ext_mem
  intro d
  rw [mem_evaluate hc d e he, mem_evaluate hc d e' he', h]

end Retrieval.Query.Expr
