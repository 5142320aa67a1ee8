import Retrieval.Proofs.Query.Truth

namespace Retrieval.Query

def Connective.dual : Connective → Connective
  | and => or
  | or => and

namespace Expr

open Index

def Equivalent (e e' : Expr) : Prop :=
  ∀ v, e.Holds v ↔ e'.Holds v

variable {ix : Index} {d : DocId} {e : Expr} {es es' fs gs : List Expr}

theorem equivalent_not_not (e : Expr) : (Expr.not (.not e)).Equivalent e := by
  intro v
  exact Classical.not_not

theorem equivalent_not_node (c : Connective) (es : List Expr) :
    (Expr.not (c.node es)).Equivalent (c.dual.node (es.map .not)) := by
  intro v
  cases c with
  | and => simp [Connective.dual, Connective.node, Holds, holdsAll_iff, holdsAny_iff]
  | or => simp [Connective.dual, Connective.node, Holds, holdsAll_iff, holdsAny_iff]

theorem equivalent_node (c : Connective) (h : ∀ e, e ∈ es ↔ e ∈ es') :
    (c.node es).Equivalent (c.node es') :=
  fun _ => holds_node_congr c h

theorem equivalent_regrouped (c : Connective) (es fs gs : List Expr) :
    (c.node (es ++ c.node fs :: gs)).Equivalent (c.node (es ++ fs ++ gs)) := by
  intro v
  cases c with
  | and =>
    simp only [Connective.node, holds_all, List.forall_mem_append, List.forall_mem_cons, and_assoc]
  | or =>
    simp only [Connective.node, holds_any, List.mem_append, List.mem_cons, or_and_right, exists_or,
      exists_eq_left, or_assoc]

theorem proper_regrouped (c : Connective) :
    (c.node (es ++ c.node fs :: gs)).Proper ↔ fs ≠ [] ∧ ∀ e ∈ es ++ fs ++ gs, e.Proper := by
  simp only [c.proper_node_iff, List.forall_mem_append, List.forall_mem_cons]
  constructor
  · rintro ⟨_, he, ⟨hn, hf⟩, hg⟩
    exact ⟨hn, ⟨he, hf⟩, hg⟩
  · rintro ⟨hn, ⟨he, hf⟩, hg⟩
    exact ⟨by simp, he, ⟨hn, hf⟩, hg⟩

theorem evaluateAll_subset {found : DocList} (h : d ∈ evaluateAll ix found es) : d ∈ found := by
  induction es generalizing found with
  | nil => rwa [evaluateAll] at h
  | cons e es ih =>
    rw [evaluateAll] at h
    split at h
    · exact h
    · exact (DocList.mem_and.1 (ih h)).1

theorem evaluateAny_subset {found : DocList} (h : d ∈ evaluateAny ix found es) :
    d ∈ found ∨ ∃ e ∈ es, d ∈ e.evaluate ix := by
  induction es generalizing found with
  | nil =>
    rw [evaluateAny] at h
    exact .inl h
  | cons e es ih =>
    rw [evaluateAny] at h
    rcases ih h with h | ⟨e', he', h⟩
    · rcases DocList.mem_or.1 h with h | h
      · exact .inl h
      · exact .inr ⟨e, List.mem_cons_self, h⟩
    · exact .inr ⟨e', List.mem_cons_of_mem e he', h⟩

/-- No query finds a document without terms, not even one with an operator that has no operands. -/
theorem evaluate_subset (hc : ix.Consistent) (e : Expr) (h : d ∈ e.evaluate ix) :
    d ∈ ix.allDocuments := by
  induction e using Expr.induction with
  | term text =>
    rw [evaluate] at h
    exact hc.documents_subset h
  | node c es ih =>
    cases c with
    | and =>
      cases es with
      | nil =>
        rw [Connective.node, evaluate] at h
        exact absurd h (DocList.not_mem_empty d)
      | cons e es =>
        rw [Connective.node, evaluate] at h
        exact ih e List.mem_cons_self (evaluateAll_subset h)
    | or =>
      rw [Connective.node, evaluate] at h
      rcases evaluateAny_subset h with h | ⟨e, he, h⟩
      · exact absurd h (DocList.not_mem_empty d)
      · exact ih e he h
  | not e _ =>
    rw [evaluate] at h
    exact (DocList.mem_not.1 h).1

/-- What a query finds is told by its truth values. -/
structure EvaluatesByTruth (ix : Index) : Prop where
  mem_iff : ∀ e : Expr, e.Proper → ∀ d, d ∈ e.evaluate ix ↔
    d ∈ ix.allDocuments ∧ e.Holds fun text => d ∈ ix.documents (ix.preprocessor.term text)
  evaluate_eq : ∀ e e' : Expr, e.Proper → e'.Proper → e.Equivalent e' →
    e.evaluate ix = e'.evaluate ix
  ascending : ∀ e : Expr, (e.evaluate ix).toList.Pairwise (· < ·)
  subset : ∀ e : Expr, ∀ d ∈ e.evaluate ix, d ∈ ix.allDocuments
  not_not : ∀ e : Expr, e.Proper → (Expr.not (.not e)).evaluate ix = e.evaluate ix
  not_node : ∀ (c : Connective) (es : List Expr), (c.node es).Proper →
    (Expr.not (c.node es)).evaluate ix = (c.dual.node (es.map .not)).evaluate ix
  node_congr : ∀ (c : Connective) (es es' : List Expr), (c.node es).Proper →
    (∀ e, e ∈ es ↔ e ∈ es') → (c.node es).evaluate ix = (c.node es').evaluate ix
  regrouped : ∀ (c : Connective) (es fs gs : List Expr), (c.node (es ++ c.node fs :: gs)).Proper →
    (c.node (es ++ c.node fs :: gs)).evaluate ix = (c.node (es ++ fs ++ gs)).evaluate ix

theorem evaluatesByTruth (p : Terms.Preprocessor) (cs : List Change) :
    EvaluatesByTruth ((Index.empty p).run cs) := by
  have hc := (consistent_empty p).run cs
  constructor
  case mem_iff => exact fun e he d => mem_evaluate hc d e he
  case evaluate_eq => exact fun e e' => evaluate_eq_of_holds_iff hc
  case ascending => exact fun e => (e.evaluate _).ascending
  case subset => exact fun e d => evaluate_subset hc e
  case not_not =>
    intro e he
    exact evaluate_eq_of_holds_iff hc he he (equivalent_not_not e)
  case not_node =>
    intro c es he
    have hn : (Expr.not (c.node es)).Proper := he
    apply evaluate_eq_of_holds_iff hc hn
    · rw [c.proper_node_iff] at he
      rw [c.dual.proper_node_iff, List.forall_mem_map]
      exact ⟨fun h => he.1 (List.map_eq_nil_iff.1 h), he.2⟩
    · exact equivalent_not_node c es
  case node_congr =>
    intro c es es' he h
    apply evaluate_eq_of_holds_iff hc he
    · rw [c.proper_node_iff] at he ⊢
      obtain ⟨e, hm⟩ := List.exists_mem_of_ne_nil es he.1
      exact ⟨List.ne_nil_of_mem ((h e).1 hm), fun e hm => he.2 e ((h e).2 hm)⟩
    · exact equivalent_node c h
  case regrouped =>
    intro c es fs gs he
    apply evaluate_eq_of_holds_iff hc he
    · rw [proper_regrouped] at he
      exact c.proper_node_iff.2 ⟨by simp [he.1], he.2⟩
    · exact equivalent_regrouped c es fs gs

end Expr

end Retrieval.Query
