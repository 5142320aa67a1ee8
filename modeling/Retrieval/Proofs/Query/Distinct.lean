import Mathlib.Tactic.Tauto
import Retrieval.Proofs.Query.Shape

namespace Retrieval.Query.Expr

/-- Whether an operand is a plain term that is one of the operands before it. -/
def repeats (before : List Expr) : Expr → Bool
  | .term text => before.any fun
    | .term text' => text' = text
    | _ => false
  | _ => false

def withoutRepeats (before : List Expr) : List Expr → List Expr
  | [] => []
  | e :: es =>
    if repeats before e then withoutRepeats (before ++ [e]) es
    else e :: withoutRepeats (before ++ [e]) es

mutual

/-- A query without the repeated operands of its conjunctions and disjunctions. -/
def distinct : Expr → Expr
  | .term text => .term text
  | .all es => .all (withoutRepeats [] (distinctList es))
  | .any es => .any (withoutRepeats [] (distinctList es))
  | .not e => .not (distinct e)

def distinctList : List Expr → List Expr
  | [] => []
  | e :: es => distinct e :: distinctList es

end

theorem repeats_iff {before : List Expr} {e : Expr} :
    repeats before e = true ↔ ∃ text, e = .term text ∧ .term text ∈ before := by
  cases e with
  | term text =>
    rw [repeats, List.any_eq_true]
    constructor
    · rintro ⟨e', he, ht⟩
      cases e' with
      | term text' =>
        have htext : text' = text := by simpa using ht
        exact ⟨text, rfl, htext ▸ he⟩
      | all es | any es | not e => cases ht
    · rintro ⟨text', ht, he⟩
      cases ht
      exact ⟨.term text, he, by simp⟩
  | all es | any es | not e => simp [repeats]

theorem repeats_term_iff {before : List Expr} {text : String} :
    repeats before (.term text) = true ↔ .term text ∈ before := by
  rw [repeats_iff]
  simp

theorem not_repeats {before : List Expr} {e : Expr} (he : ∀ text, e ≠ .term text) :
    ¬repeats before e = true := by
  intro h
  obtain ⟨text, ht, _⟩ := repeats_iff.1 h
  exact he text ht

theorem not_repeats_nil (e : Expr) : ¬repeats [] e = true := by
  intro h
  obtain ⟨text, _, ht⟩ := repeats_iff.1 h
  exact List.not_mem_nil ht

theorem mem_withoutRepeats_or (before es : List Expr) (e : Expr) :
    e ∈ withoutRepeats before es ∨ e ∈ before ↔ e ∈ es ∨ e ∈ before := by
  induction es generalizing before with
  | nil => rw [withoutRepeats]
  | cons e' es ih =>
    have h := ih (before ++ [e'])
    rw [List.mem_append, List.mem_singleton] at h
    rw [withoutRepeats, List.mem_cons]
    split
    · next hr =>
      -- what is left out stands before
      obtain ⟨text, rfl, ht⟩ := repeats_iff.1 hr
      by_cases he : e = .term text
      · exact iff_of_true (.inr (he ▸ ht)) (.inr (he ▸ ht))
      · simpa only [he, or_false, false_or] using h
    · rw [List.mem_cons, or_assoc, or_assoc, or_left_comm, or_comm (a := e = e'), h]
      tauto

theorem mem_withoutRepeats {es : List Expr} {e : Expr} : e ∈ withoutRepeats [] es ↔ e ∈ es := by
  simpa only [List.not_mem_nil, or_false] using mem_withoutRepeats_or [] es e

theorem distinctList_eq_map (es : List Expr) : distinctList es = es.map distinct := by
  induction es with
  | nil => rfl
  | cons e es ih => rw [distinctList, ih, List.map_cons]

theorem withoutRepeats_ne_nil {es : List Expr} (h : es ≠ []) : withoutRepeats [] es ≠ [] := by
  cases es with
  | nil => exact absurd rfl h
  | cons e es =>
    rw [withoutRepeats, if_neg (not_repeats_nil e)]
    exact List.cons_ne_nil _ _

theorem ProperList.withoutRepeats {es : List Expr} (h : ProperList es) (before : List Expr) :
    ProperList (withoutRepeats before es) := by
  induction es generalizing before with
  | nil => exact h
  | cons e es ih =>
    obtain ⟨he, hes⟩ := h
    rw [Expr.withoutRepeats]
    split
    · exact ih hes _
    · exact ⟨he, ih hes _⟩

theorem distinctList_ne_nil {es : List Expr} (h : es ≠ []) : distinctList es ≠ [] := by
  cases es with
  | nil => exact absurd rfl h
  | cons e es => exact List.cons_ne_nil _ _

mutual

theorem Proper.distinct : {e : Expr} → e.Proper → e.distinct.Proper
  | .term _, _ => trivial
  | .all _, h => ⟨withoutRepeats_ne_nil (distinctList_ne_nil h.1), h.2.distinct.withoutRepeats []⟩
  | .any _, h => ⟨withoutRepeats_ne_nil (distinctList_ne_nil h.1), h.2.distinct.withoutRepeats []⟩
  | .not e, h => Proper.distinct (e := e) h

theorem ProperList.distinct : {es : List Expr} → ProperList es → ProperList (distinctList es)
  | [], _ => trivial
  | _ :: _, h => ⟨h.1.distinct, h.2.distinct⟩

end

end Retrieval.Query.Expr
