import Mathlib.Algebra.Group.Nat.Even
import Retrieval.Proofs.Query.Connective

namespace Retrieval.Query.Expr

/-- A term stands somewhere in a query, with `n` negations around it. -/
inductive Occurs (text : String) : Nat → Expr → Prop
  | term : Occurs text 0 (.term text)
  | all {n : Nat} {e : Expr} {es : List Expr} (he : e ∈ es) (h : Occurs text n e) :
    Occurs text n (.all es)
  | any {n : Nat} {e : Expr} {es : List Expr} (he : e ∈ es) (h : Occurs text n e) :
    Occurs text n (.any es)
  | not {n : Nat} {e : Expr} (h : Occurs text n e) : Occurs text (n + 1) (.not e)

theorem occurs_term_iff {text text' : String} {n : Nat} :
    (Expr.term text').Occurs text n ↔ text' = text ∧ n = 0 := by
  constructor
  · intro h
    cases h
    exact ⟨rfl, rfl⟩
  · rintro ⟨rfl, rfl⟩
    exact .term

theorem occurs_node_iff {text : String} {n : Nat} (c : Connective) {es : List Expr} :
    (c.node es).Occurs text n ↔ ∃ e ∈ es, e.Occurs text n := by
  constructor
  · intro h
    cases c with
    | and =>
      cases h with
      | all he h => exact ⟨_, he, h⟩
    | or =>
      cases h with
      | any he h => exact ⟨_, he, h⟩
  · rintro ⟨e, he, h⟩
    cases c with
    | and => exact .all he h
    | or => exact .any he h

theorem occurs_not_iff {text : String} {n : Nat} {e : Expr} :
    (Expr.not e).Occurs text n ↔ ∃ m, n = m + 1 ∧ e.Occurs text m := by
  constructor
  · intro h
    cases h with
    | not h => exact ⟨_, rfl, h⟩
  · rintro ⟨m, rfl, h⟩
    exact .not h

mutual

def words (negated : Bool) : Expr → List String
  | .term text => if negated then [] else [text]
  | .all es => wordsList negated es
  | .any es => wordsList negated es
  | .not e => words (!negated) e

def wordsList (negated : Bool) : List Expr → List String
  | [] => []
  | e :: es => words negated e ++ wordsList negated es

end

theorem words_node (c : Connective) (negated : Bool) (es : List Expr) :
    (c.node es).words negated = wordsList negated es := by
  cases c <;> rfl

theorem wordsList_eq_flatMap (negated : Bool) (es : List Expr) :
    wordsList negated es = es.flatMap (words negated) := by
  induction es with
  | nil => rfl
  | cons e es ih => rw [wordsList, ih, List.flatMap_cons]

theorem wordsList_append (negated : Bool) (es es' : List Expr) :
    wordsList negated (es ++ es') = wordsList negated es ++ wordsList negated es' := by
  simp only [wordsList_eq_flatMap, List.flatMap_append]

theorem mem_words_node {text : String} {negated : Bool} (c : Connective) {es : List Expr} :
    text ∈ (c.node es).words negated ↔ ∃ e ∈ es, text ∈ e.words negated := by
  rw [words_node, wordsList_eq_flatMap, List.mem_flatMap]

theorem wordsList_operands (c : Connective) (negated : Bool) (l : Expr) :
    wordsList negated (c.operands l) = l.words negated := by
  rcases c.operands_cases l with ⟨es, rfl⟩ | h
  · rw [c.operands_node, words_node]
  · rw [h, wordsList, wordsList, List.append_nil]

theorem words_join (c : Connective) (negated : Bool) (l r : Expr) :
    (c.join l r).words negated = l.words negated ++ r.words negated := by
  rw [c.join_eq_node, words_node, wordsList_append, wordsList_operands, wordsList, wordsList,
    List.append_nil]

/-- Two negations cancel each other, so that only their number's parity counts. -/
theorem mem_words_iff {text : String} {negated : Bool} {e : Expr} :
    text ∈ e.words negated ↔ ∃ n, (Even n ↔ negated = false) ∧ e.Occurs text n := by
  induction e using Expr.induction generalizing negated with
  | term text' =>
    simp only [words, occurs_term_iff]
    cases negated <;> simp [eq_comm]
  | node c es ih =>
    simp only [mem_words_node, occurs_node_iff]
    constructor
    · rintro ⟨e, he, h⟩
      obtain ⟨n, hn, ho⟩ := (ih e he).1 h
      exact ⟨n, hn, e, he, ho⟩
    · rintro ⟨n, hn, e, he, ho⟩
      exact ⟨e, he, (ih e he).2 ⟨n, hn, ho⟩⟩
  | not e ih =>
    simp only [words, ih, occurs_not_iff]
    constructor
    · rintro ⟨n, hn, ho⟩
      refine ⟨n + 1, ?_, n, rfl, ho⟩
      rw [Nat.even_add_one, hn]
      cases negated <;> simp
    · rintro ⟨_, hn, n, rfl, ho⟩
      refine ⟨n, ?_, ho⟩
      rw [Nat.even_add_one] at hn
      cases negated <;> simp_all

theorem mem_words_distinct {text : String} {negated : Bool} {e : Expr} :
    text ∈ e.distinct.words negated ↔ text ∈ e.words negated := by
  induction e using Expr.induction generalizing negated with
  | term text' => rfl
  | node c es ih =>
    rw [c.distinct_node, mem_words_node, mem_words_node]
    simp only [mem_withoutRepeats, distinctList_eq_map, List.mem_map, exists_exists_and_eq_and]
    exact exists_congr fun e => and_congr_right fun he => ih e he
  | not e ih =>
    rw [distinct, words, words]
    exact ih

end Retrieval.Query.Expr
