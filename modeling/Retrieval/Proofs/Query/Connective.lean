import Retrieval.Proofs.Query.Distinct
import Retrieval.Query.Token

namespace Retrieval.Query

inductive Connective
  | and
  | or
  deriving DecidableEq, Repr

namespace Connective

def token : Connective → Token
  | and => .and
  | or => .or

def join : Connective → Expr → Expr → Expr
  | and => Expr.and
  | or => Expr.or

def node : Connective → List Expr → Expr
  | and => .all
  | or => .any

theorem token_ne_boundary (c : Connective) : c.token ≠ .boundary := by
  cases c <;> decide

theorem proper_join (c : Connective) {l r : Expr} (hl : l.Proper) (hr : r.Proper) :
    (c.join l r).Proper := by
  cases c with
  | and => exact hl.and hr
  | or => exact hl.or hr

theorem depth_le_join (c : Connective) (l r : Expr) :
    l.depth ≤ (c.join l r).depth ∧ r.depth ≤ (c.join l r).depth := by
  cases c with
  | and =>
    rw [join, Expr.depth_and]
    split <;> omega
  | or =>
    rw [join, Expr.depth_or]
    split <;> omega

theorem proper_node (c : Connective) {es : List Expr} (hn : es ≠ [])
    (hp : Expr.ProperList es) : (c.node es).Proper := by
  cases c <;> exact ⟨hn, hp⟩

theorem depth_node (c : Connective) (es : List Expr) :
    (c.node es).depth = Expr.depthList es + 1 := by
  cases c <;> rfl

theorem proper_node_iff (c : Connective) {es : List Expr} :
    (c.node es).Proper ↔ es ≠ [] ∧ ∀ e ∈ es, e.Proper := by
  rw [← Expr.properList_iff]
  cases c <;> rfl

theorem distinct_node (c : Connective) (es : List Expr) : (c.node es).distinct =
    c.node (Expr.withoutRepeats [] (Expr.distinctList es)) := by
  cases c <;> rfl

/-- What goes into a node when a query is joined to the left of something. -/
def operands : Connective → Expr → List Expr
  | and, .all es => es
  | or, .any es => es
  | _, e => [e]

theorem operands_node (c : Connective) (es : List Expr) : c.operands (c.node es) = es := by
  cases c <;> rfl

theorem operands_cases (c : Connective) (l : Expr) :
    (∃ es, l = c.node es) ∨ c.operands l = [l] := by
  cases c with
  | and =>
    cases l with
    | all es => exact .inl ⟨es, rfl⟩
    | term | any | not => exact .inr rfl
  | or =>
    cases l with
    | any es => exact .inl ⟨es, rfl⟩
    | term | all | not => exact .inr rfl

theorem join_eq_node (c : Connective) (l r : Expr) :
    c.join l r = c.node (c.operands l ++ [r]) := by
  cases c <;> cases l <;> rfl

theorem foldl_join_cons (c : Connective) (l r : Expr) (es : List Expr) :
    (r :: es).foldl c.join l = c.node (c.operands l ++ r :: es) := by
  induction es generalizing l r with
  | nil => exact c.join_eq_node l r
  | cons e es ih =>
    rw [List.foldl_cons, ih, join_eq_node, operands_node, List.append_assoc, List.singleton_append]

theorem depthList_operands_le (c : Connective) (l : Expr) :
    Expr.depthList (c.operands l) ≤ l.depth := by
  rcases c.operands_cases l with ⟨es, rfl⟩ | h
  · rw [operands_node, depth_node]
    exact Nat.le_succ _
  · rw [h]
    simp [Expr.depthList]

end Connective

/-- Conjunctions and disjunctions are taken together, with all their operands at hand. -/
@[elab_as_elim]
theorem Expr.induction {motive : Expr → Prop} (term : ∀ text, motive (.term text))
    (node : ∀ (c : Connective) es, (∀ e ∈ es, motive e) → motive (c.node es))
    (not : ∀ e, motive e → motive (.not e)) (e : Expr) : motive e :=
  Expr.rec (motive_1 := motive) (motive_2 := fun es => ∀ e ∈ es, motive e) term
    (fun es ih => node .and es ih) (fun es ih => node .or es ih) not
    (fun _ h => absurd h List.not_mem_nil)
    (fun _ _ he hes => List.forall_mem_cons.2 ⟨he, hes⟩) e

end Retrieval.Query
