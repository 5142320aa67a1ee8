import Retrieval.Query.Infixed
import Retrieval.Proofs.Query.Connective

namespace Retrieval.Query.Infixed

mutual

/-- The tokens of an operand: an identifier, a negated operand, or a chain in parentheses. -/
inductive Factor : List Token → Expr → Prop
  | ident (text : String) : Factor [.ident text] (.term text)
  | not {ts : List Token} {e : Expr} (h : Factor ts e) : Factor (.not :: ts) (.not e)
  | group {ts : List Token} {e : Expr} (h : Chain ts e) :
    Factor (.leftParen :: (ts ++ [.rightParen])) e

/-- The tokens of operands with connectives between them, all of one priority: what comes before a
connective is its left operand. -/
inductive Chain : List Token → Expr → Prop
  | factor {ts : List Token} {e : Expr} (h : Factor ts e) : Chain ts e
  | join {ts us : List Token} {l r : Expr} (c : Connective) (hl : Chain ts l) (hr : Factor us r) :
    Chain (ts ++ c.token :: us) (c.join l r)

end

mutual

theorem Factor.proper {ts : List Token} {e : Expr} (h : Factor ts e) : e.Proper := by
  match h with
  | .ident text => trivial
  | .not h =>
    rw [Expr.Proper]
    exact Factor.proper h
  | .group h => exact Chain.proper h

theorem Chain.proper {ts : List Token} {e : Expr} (h : Chain ts e) : e.Proper := by
  match h with
  | .factor h => exact Factor.proper h
  | .join c hl hr => exact c.proper_join (Chain.proper hl) (Factor.proper hr)

end

/-- The tokens of a query with each operator after its operands. -/
inductive Postfix : List Token → Expr → Prop
  | ident (text : String) : Postfix [.ident text] (.term text)
  | not {ts : List Token} {e : Expr} (h : Postfix ts e) : Postfix (ts ++ [.not]) (.not e)
  | join {ts us : List Token} {l r : Expr} (c : Connective) (hl : Postfix ts l)
    (hr : Postfix us r) : Postfix (ts ++ us ++ [c.token]) (c.join l r)

theorem countOperands_connective (c : Connective) (n : Nat) (ts : List Token) :
    countOperands (n + 2) (c.token :: ts) = countOperands (n + 1) ts := by
  have h : ¬n + 2 < 2 := by omega
  cases c <;> simp [Connective.token, countOperands, h]

theorem Postfix.countOperands {ts : List Token} {e : Expr} (h : Postfix ts e) (n : Nat)
    (rest : List Token) : countOperands n (ts ++ rest) = countOperands (n + 1) rest := by
  induction h generalizing n rest with
  | ident text => rfl
  | not h ih =>
    rw [List.append_assoc, ih, List.singleton_append, Infixed.countOperands, if_neg (by omega)]
  | join c hl hr ihl ihr =>
    rw [List.append_assoc, List.append_assoc, ihl, ihr, List.singleton_append,
      countOperands_connective]

theorem Postfix.checkOperands {ts : List Token} {e : Expr} (h : Postfix ts e) :
    checkOperands ts = .ok () := by
  have hc := h.countOperands 0 []
  rw [List.append_nil] at hc
  rw [Infixed.checkOperands, hc]
  rfl

def Part.of (e : Expr) : Part :=
  ⟨e, e.depth⟩

theorem pushPart_of (e : Expr) (stack : List Part) : pushPart (Part.of e) stack =
    if e.depth ≤ Expr.maxDepth then .ok (Part.of e :: stack) else .error .tooDeep := by
  rw [pushPart, Part.of]
  by_cases h : e.depth ≤ Expr.maxDepth
  · rw [if_neg (by simpa using h), if_pos h]
  · rw [if_pos (by simpa using h), if_neg h]

theorem buildStep_not (e : Expr) (stack : List Part) :
    buildStep (Part.of e :: stack) .not = pushPart (Part.of (.not e)) stack := rfl

theorem buildStep_connective (c : Connective) (l r : Expr) (stack : List Part) :
    buildStep (Part.of r :: Part.of l :: stack) c.token = pushPart (Part.of (c.join l r)) stack := by
  cases c with
  | and =>
    have h : (Part.of l).and (Part.of r) = Part.of (l.and r) := by
      unfold Part.of
      rw [Expr.depth_and]
      cases l <;> rfl
    exact congrArg (pushPart · stack) h
  | or =>
    have h : (Part.of l).or (Part.of r) = Part.of (l.or r) := by
      unfold Part.of
      rw [Expr.depth_or]
      cases l <;> rfl
    exact congrArg (pushPart · stack) h

/-- No part of a query is deeper than the query, so that it is refused for its own depth only. -/
theorem bind_pushPart {e e' : Expr} (h : e.depth ≤ e'.depth) {stack stack' : List Part}
    {f : List Part → Except QueryError (List Part)}
    (hf : f (Part.of e :: stack) = pushPart (Part.of e') stack') :
    (pushPart (Part.of e) stack).bind f = pushPart (Part.of e') stack' := by
  by_cases hd : e.depth ≤ Expr.maxDepth
  · rw [pushPart_of, if_pos hd, ← hf]
    rfl
  · rw [pushPart_of, if_neg hd, pushPart_of, if_neg (by omega)]
    rfl

theorem foldlM_buildStep_append (ts us : List Token) (stack : List Part) :
    (ts ++ us).foldlM buildStep stack =
      (ts.foldlM buildStep stack).bind fun stack => us.foldlM buildStep stack :=
  List.foldlM_append

theorem foldlM_buildStep_singleton (t : Token) (stack : List Part) :
    [t].foldlM buildStep stack = buildStep stack t := by
  rw [List.foldlM_cons]
  exact bind_pure _

theorem Postfix.foldlM_buildStep {ts : List Token} {e : Expr} (h : Postfix ts e)
    (stack : List Part) : ts.foldlM buildStep stack = pushPart (Part.of e) stack := by
  induction h generalizing stack with
  | ident text => rfl
  | @not ts e h ih =>
    have hd : e.depth ≤ (Expr.not e).depth := Nat.le_succ _
    rw [foldlM_buildStep_append, ih]
    apply bind_pushPart hd
    rw [foldlM_buildStep_singleton, buildStep_not]
  | @join ts us l r c hl hr ihl ihr =>
    obtain ⟨hle, hre⟩ := c.depth_le_join l r
    rw [List.append_assoc, foldlM_buildStep_append, ihl]
    apply bind_pushPart hle
    rw [foldlM_buildStep_append, ihr]
    apply bind_pushPart hre
    rw [foldlM_buildStep_singleton, buildStep_connective]

theorem Postfix.build {ts : List Token} {e : Expr} (h : Postfix ts e) :
    build ts = if e.depth ≤ Expr.maxDepth then .ok e else .error .tooDeep := by
  rw [Infixed.build, h.foldlM_buildStep, pushPart_of]
  split <;> rfl

end Retrieval.Query.Infixed
