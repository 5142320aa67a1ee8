import Retrieval.Query.Infixed
import Retrieval.Proofs.Except

namespace Retrieval.Query.Infixed

/-- One token of a fold that takes no notice of depths. An identifier is put on the stack, an
operator takes its operands from there and leaves what it makes of them. -/
def foldStep (stack : List Part) : Token → Except QueryError (List Part)
  | .ident text => .ok (⟨.term text, 1⟩ :: stack)
  | .not =>
    match stack with
    | p :: stack => .ok (p.not :: stack)
    | [] => .error (.tooFewOperands .not)
  | t =>
    match stack with
    | r :: l :: stack => .ok ((if t = .or then l.or r else l.and r) :: stack)
    | _ => .error (.tooFewOperands t.operator)

def limit : List Part → Except QueryError (List Part)
  | p :: stack => pushPart p stack
  | [] => .ok []

theorem buildStep_eq (stack : List Part) (t : Token) :
    buildStep stack t = foldStep stack t >>= limit := by
  cases t with
  | ident text => rfl
  | not =>
    match stack with
    | [] | _ :: _ => rfl
  | and | or | leftParen | rightParen | comma | boundary =>
    match stack with
    | [] | [_] | _ :: _ :: _ => rfl

theorem limit_cases (stack : List Part) :
    limit stack = .ok stack ∨ limit stack = .error .tooDeep := by
  cases stack with
  | nil => exact .inl rfl
  | cons p stack =>
    rw [limit, pushPart]
    by_cases h : Expr.maxDepth < p.depth
    · exact .inr (if_pos h)
    · exact .inl (if_neg h)

theorem buildStep_cases (stack : List Part) (t : Token) :
    buildStep stack t = foldStep stack t ∨ buildStep stack t = .error .tooDeep := by
  rw [buildStep_eq]
  cases foldStep stack t with
  | error e => exact .inl rfl
  | ok stack' => exact limit_cases stack'

/-- The limit on depths makes no difference to a fold except that it may end it. -/
theorem foldlM_buildStep_cases (ts : List Token) (stack : List Part) :
    ts.foldlM buildStep stack = ts.foldlM foldStep stack ∨
      ts.foldlM buildStep stack = .error .tooDeep := by
  induction ts generalizing stack with
  | nil => exact .inl rfl
  | cons t ts ih =>
    rw [List.foldlM_cons, List.foldlM_cons]
    rcases buildStep_cases stack t with h | h
    · rw [h]
      cases foldStep stack t with
      | error e => exact .inl rfl
      | ok stack' => exact ih stack'
    · rw [h]
      exact .inr rfl

theorem countOperands_cons (stack : List Part) (t : Token) (ts : List Token) :
    countOperands stack.length (t :: ts) =
      foldStep stack t >>= fun stack => countOperands stack.length ts := by
  cases t with
  | ident text => rfl
  | not =>
    match stack with
    | [] | _ :: _ => rfl
  | and | or | leftParen | rightParen | comma | boundary =>
    match stack with
    | [] | [_] => rfl
    | _ :: _ :: stack =>
      have hn : ¬stack.length + 2 < 2 := by omega
      simp only [List.length_cons, countOperands, hn, if_false]
      rfl

/-- Counting operands goes as folding them does, to the same errors. -/
theorem countOperands_eq (ts : List Token) (stack : List Part) :
    countOperands stack.length ts = (ts.foldlM foldStep stack).map List.length := by
  induction ts generalizing stack with
  | nil => rfl
  | cons t ts ih =>
    rw [countOperands_cons, List.foldlM_cons]
    cases foldStep stack t with
    | error e => rfl
    | ok stack' => exact ih stack'

theorem checkOperands_eq (ts : List Token) :
    checkOperands ts = match ts.foldlM foldStep [] with
      | .error e => .error e
      | .ok [] => .error .incomplete
      | .ok [_] => .ok ()
      | .ok stack => .error (.tooManyOperands stack.length) := by
  have hc : countOperands 0 ts = (ts.foldlM foldStep []).map List.length := countOperands_eq ts []
  rw [checkOperands, hc]
  match ts.foldlM foldStep [] with
  | .error e => rfl
  | .ok [] | .ok [_] | .ok (_ :: _ :: _) => rfl

theorem checkOperands_eq_ok_iff {ts : List Token} :
    checkOperands ts = .ok () ↔ ∃ p, ts.foldlM foldStep [] = .ok [p] := by
  rw [checkOperands_eq]
  match ts.foldlM foldStep [] with
  | .error e | .ok [] | .ok [p] | .ok (_ :: _ :: _) => simp

theorem build_of_foldlM {ts : List Token} {p : Part} (h : ts.foldlM foldStep [] = .ok [p]) :
    build ts = .ok p.expr ∨ build ts = .error .tooDeep := by
  rcases foldlM_buildStep_cases ts [] with hb | hb
  · rw [build, hb, h]
    exact .inl rfl
  · rw [build, hb]
    exact .inr rfl

end Retrieval.Query.Infixed
