import Retrieval.Proofs.Query.InfixedGrammar

namespace Retrieval.Query.Infixed

namespace Conversion

def Closed (pending : List Token) : Prop :=
  ∀ t ∈ pending.head?, t.isOperator = false

def Operators (ops : List Token) : Prop :=
  ∀ t ∈ ops, t.isOperator = true

theorem closed_nil : Closed [] := by
  simp [Closed]

theorem closed_leftParen (pending : List Token) : Closed (.leftParen :: pending) := by
  simp [Closed, Token.isOperator]

theorem operators_nil : Operators [] :=
  fun _ h => absurd h List.not_mem_nil

theorem operators_cons {t : Token} {ops : List Token} :
    Operators (t :: ops) ↔ t.isOperator = true ∧ Operators ops :=
  List.forall_mem_cons

theorem operators_append {ops ops' : List Token} (h : Operators ops) (h' : Operators ops') :
    Operators (ops ++ ops') :=
  List.forall_mem_append.2 ⟨h, h'⟩

theorem operators_not : Operators [.not] :=
  operators_cons.2 ⟨rfl, operators_nil⟩

theorem operators_connective (c : Connective) : Operators [c.token] := by
  refine operators_cons.2 ⟨?_, operators_nil⟩
  cases c <;> rfl

theorem writeOperators_append {ops base : List Token} (ho : Operators ops) (hb : Closed base)
    (out : List Token) : writeOperators out (ops ++ base) = (ops.reverse ++ out, base) := by
  induction ops generalizing out with
  | nil =>
    cases base with
    | nil => rfl
    | cons t base =>
      have ht : t.isOperator = false := hb t rfl
      simp [writeOperators, ht]
  | cons t ops ih =>
    obtain ⟨ht, ho⟩ := operators_cons.1 ho
    have h := ih ho (t :: out)
    simp [writeOperators, ht, h]

theorem closeParen?_cons {t : Token} (ht : t.isOperator = true) (out pending : List Token) :
    closeParen? out (t :: pending) = closeParen? (t :: out) pending := by
  cases t with
  | and | or | not => rfl
  | ident text | leftParen | rightParen | comma | boundary => cases ht

theorem closeParen?_append {ops : List Token} (ho : Operators ops) (out pending : List Token) :
    closeParen? out (ops ++ .leftParen :: pending) = some (ops.reverse ++ out, pending) := by
  induction ops generalizing out with
  | nil => rfl
  | cons t ops ih =>
    obtain ⟨ht, ho⟩ := operators_cons.1 ho
    rw [List.cons_append, closeParen?_cons ht, ih ho, List.reverse_cons, List.append_assoc]
    rfl

theorem closeParen?_operators {ops : List Token} (ho : Operators ops) (out : List Token) :
    closeParen? out ops = none := by
  induction ops generalizing out with
  | nil => rfl
  | cons t ops ih =>
    obtain ⟨ht, ho⟩ := operators_cons.1 ho
    rw [closeParen?_cons ht, ih ho]

theorem writeRest_operators {ops : List Token} (ho : Operators ops) (out : List Token) :
    writeRest out ops = .ok (out.reverse ++ ops) := by
  induction ops generalizing out with
  | nil => simp [writeRest]
  | cons t ops ih =>
    obtain ⟨ht, ho⟩ := operators_cons.1 ho
    have hne : t ≠ .leftParen := by
      rintro rfl
      cases ht
    have h := ih ho (t :: out)
    simp [writeRest, hne, h]

theorem writeRest_leftParen (ops pending out : List Token) :
    writeRest out (ops ++ .leftParen :: pending) = .error .missingRightParen := by
  induction ops generalizing out with
  | nil => rfl
  | cons t ops ih =>
    rw [List.cons_append, writeRest]
    split
    · rfl
    · exact ih (t :: out)

theorem step_connective (c : Connective) (out pending : List Token) :
    step ⟨out, pending, false⟩ c.token =
      .ok ⟨(writeOperators out pending).1, c.token :: (writeOperators out pending).2, true⟩ := by
  cases c <;> rfl

end Conversion

open Conversion

theorem convertFrom_cons {s s' : Conversion} {t : Token} (h : s.step t = .ok s')
    (ts : List Token) : convertFrom s (t :: ts) = convertFrom s' ts := by
  rw [convertFrom, h]

/-- How a conversion reads some tokens where an operand is expected: it writes `out` and leaves
`ops` pending, and these together are the tokens of a query in postfix order. -/
structure Converts (ts : List Token) (e : Expr) (out ops pending : List Token) : Prop where
  postfixed : Postfix (out ++ ops) e
  operators : Operators ops
  convertFrom_eq : ∀ written rest, convertFrom ⟨written, pending, true⟩ (ts ++ rest) =
    convertFrom ⟨out.reverse ++ written, ops ++ pending, false⟩ rest

mutual

theorem Factor.converts {ts : List Token} {e : Expr} (h : Factor ts e) :
    ∃ out ops, ∀ pending, Converts ts e out ops pending := by
  match h with
  | .ident text =>
    exact ⟨[.ident text], [], fun pending => ⟨.ident text, operators_nil, fun written rest => rfl⟩⟩
  | .not h =>
    obtain ⟨out, ops, hc⟩ := Factor.converts h
    refine ⟨out, ops ++ [.not], fun pending => ⟨?_, ?_, fun written rest => ?_⟩⟩
    · rw [← List.append_assoc]
      exact (hc pending).postfixed.not
    · exact operators_append (hc pending).operators operators_not
    · rw [List.cons_append, convertFrom_cons rfl]
      have he := (hc (.not :: pending)).convertFrom_eq written rest
      simpa using he
  | .group h =>
    obtain ⟨out, ops, hc⟩ := Chain.converts h
    refine ⟨out ++ ops, [], fun pending => ⟨?_, operators_nil, fun written rest => ?_⟩⟩
    · rw [List.append_nil]
      exact (hc [] closed_nil).postfixed
    · have hg := hc (.leftParen :: pending) (closed_leftParen pending)
      have he := hg.convertFrom_eq written (.rightParen :: rest)
      have hp := closeParen?_append hg.operators (out.reverse ++ written) pending
      have hs : step ⟨out.reverse ++ written, ops ++ .leftParen :: pending, false⟩ .rightParen =
          .ok ⟨ops.reverse ++ (out.reverse ++ written), pending, false⟩ := by
        simp [step, hp]
      rw [List.cons_append, List.append_assoc, convertFrom_cons rfl, List.singleton_append]
      refine he.trans ?_
      rw [convertFrom_cons hs]
      simp

theorem Chain.converts {ts : List Token} {e : Expr} (h : Chain ts e) :
    ∃ out ops, ∀ pending, Closed pending → Converts ts e out ops pending := by
  match h with
  | .factor h =>
    obtain ⟨out, ops, hc⟩ := Factor.converts h
    exact ⟨out, ops, fun pending _ => hc pending⟩
  | .join c hl hr =>
    obtain ⟨outl, opsl, hcl⟩ := Chain.converts hl
    obtain ⟨outr, opsr, hcr⟩ := Factor.converts hr
    refine ⟨outl ++ opsl ++ outr, opsr ++ [c.token], fun pending hp => ⟨?_, ?_,
      fun written rest => ?_⟩⟩
    · have h := Postfix.join c (hcl pending hp).postfixed (hcr pending).postfixed
      simpa [List.append_assoc] using h
    · exact operators_append (hcr pending).operators (operators_connective c)
    · have hw := writeOperators_append (hcl pending hp).operators hp (outl.reverse ++ written)
      have hs := step_connective c (outl.reverse ++ written) (opsl ++ pending)
      rw [hw] at hs
      rw [List.append_assoc, (hcl pending hp).convertFrom_eq, List.cons_append,
        convertFrom_cons hs, (hcr (c.token :: pending)).convertFrom_eq]
      simp

end

theorem Chain.toPostfix {ts : List Token} {e : Expr} (h : Chain ts e) :
    ∃ postfixed, toPostfix ts = .ok postfixed ∧ Postfix postfixed e := by
  obtain ⟨out, ops, hc⟩ := Chain.converts h
  have hs := hc [] closed_nil
  have he := hs.convertFrom_eq [] []
  have hw := writeRest_operators hs.operators out.reverse
  rw [List.reverse_reverse] at hw
  refine ⟨out ++ ops, ?_, hs.postfixed⟩
  simp only [List.append_nil] at he
  rw [Infixed.toPostfix, start, he, convertFrom, finish, if_neg Bool.false_ne_true, hw]
  rfl

/-- A chain is refused for its depth only. -/
theorem Chain.parseTokens {ts : List Token} {e : Expr} (h : Chain ts e) :
    parseTokens ts = if e.depth ≤ Expr.maxDepth then .ok e else .error .tooDeep := by
  obtain ⟨postfixed, ht, hp⟩ := Chain.toPostfix h
  rw [Infixed.parseTokens, ht, ← hp.build]
  change (checkOperands postfixed >>= fun _ => build postfixed) = build postfixed
  rw [hp.checkOperands]
  rfl

end Retrieval.Query.Infixed
