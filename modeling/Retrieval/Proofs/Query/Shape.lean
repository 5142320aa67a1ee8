import Retrieval.Query.Expr

namespace Retrieval.Query.Expr

mutual

/-- The nesting of a query: one for a term, and one more for each operator around it. -/
def depth : Expr → Nat
  | .term _ => 1
  | .all es => depthList es + 1
  | .any es => depthList es + 1
  | .not e => depth e + 1

def depthList : List Expr → Nat
  | [] => 0
  | e :: es => max (depth e) (depthList es)

end

mutual

/-- No conjunction or disjunction is without operands. -/
def Proper : Expr → Prop
  | .term _ => True
  | .all es => es ≠ [] ∧ ProperList es
  | .any es => es ≠ [] ∧ ProperList es
  | .not e => Proper e

def ProperList : List Expr → Prop
  | [] => True
  | e :: es => Proper e ∧ ProperList es

end

theorem depthList_append (es es' : List Expr) :
    depthList (es ++ es') = max (depthList es) (depthList es') := by
  induction es with
  | nil => simp [depthList]
  | cons e es ih => simp [depthList, ih, Nat.max_assoc]

theorem properList_append (es es' : List Expr) :
    ProperList (es ++ es') ↔ ProperList es ∧ ProperList es' := by
  induction es with
  | nil => simp [ProperList]
  | cons e es ih => simp [ProperList, ih, and_assoc]

theorem depthList_le_iff {es : List Expr} {n : Nat} :
    depthList es ≤ n ↔ ∀ e ∈ es, e.depth ≤ n := by
  induction es with
  | nil => simp [depthList]
  | cons e es ih => rw [depthList, Nat.max_le, ih, List.forall_mem_cons]

theorem properList_iff {es : List Expr} : ProperList es ↔ ∀ e ∈ es, e.Proper := by
  induction es with
  | nil => simp [ProperList]
  | cons e es ih => rw [ProperList, ih, List.forall_mem_cons]

theorem depth_and (l r : Expr) : (l.and r).depth =
    match l with
    | .all _ => max l.depth (r.depth + 1)
    | _ => max l.depth r.depth + 1 := by
  cases l with
  | all es =>
    simp only [Expr.and, depth, depthList_append, depthList]
    omega
  | term text | any es | not e =>
    simp only [Expr.and, depth, depthList]
    omega

theorem depth_or (l r : Expr) : (l.or r).depth =
    match l with
    | .any _ => max l.depth (r.depth + 1)
    | _ => max l.depth r.depth + 1 := by
  cases l with
  | any es =>
    simp only [Expr.or, depth, depthList_append, depthList]
    omega
  | term text | all es | not e =>
    simp only [Expr.or, depth, depthList]
    omega

theorem Proper.and {l r : Expr} (hl : l.Proper) (hr : r.Proper) : (l.and r).Proper := by
  cases l <;> simp_all [Expr.and, Proper, ProperList, properList_append]

theorem Proper.or {l r : Expr} (hl : l.Proper) (hr : r.Proper) : (l.or r).Proper := by
  cases l <;> simp_all [Expr.or, Proper, ProperList, properList_append]

end Retrieval.Query.Expr
