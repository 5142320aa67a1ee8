import Retrieval.Proofs.Query.InfixedCompletion
import Retrieval.Proofs.Query.OperandStack

namespace Retrieval.Query

def Token.isIdent : Token → Bool
  | .ident _ => true
  | _ => false

theorem Token.isIdent_eq_false {t : Token} (h : t.isOperator = true) : t.isIdent = false := by
  cases t with
  | and | or | not => rfl
  | ident text | leftParen | rightParen | comma | boundary => cases h

namespace Infixed

open Conversion

variable {ts us out pending ops base postfixed : List Token} {t : Token} {s s' : Conversion}
  {e : QueryError} {r : Rejection}

section Output

/-- The identifiers of some tokens in their order and the operators in any order, but nothing
else. -/
structure Rearranges (ts postfixed : List Token) : Prop where
  identifiers : postfixed.filter Token.isIdent = ts.filter Token.isIdent
  operators : (postfixed.filter Token.isOperator).Perm (ts.filter Token.isOperator)
  isIdent_or_isOperator : ∀ t ∈ postfixed, t.isIdent ∨ t.isOperator

/-- What a conversion has done with the tokens that it has read. The identifiers are written, and
the operators are written or they wait among open parentheses. -/
structure Keeps (ts out pending : List Token) : Prop where
  identifiers : out.reverse.filter Token.isIdent = ts.filter Token.isIdent
  operators : ((pending ++ out).filter Token.isOperator).Perm (ts.filter Token.isOperator)
  isIdent_or_isOperator : ∀ t ∈ out, t.isIdent ∨ t.isOperator

theorem keeps_nil : Keeps [] [] [] where
  identifiers := rfl
  operators := .refl []
  isIdent_or_isOperator _ h := absurd h List.not_mem_nil

theorem filter_isIdent_operators (ho : Operators ops) : ops.filter Token.isIdent = [] := by
  rw [List.filter_eq_nil_iff]
  intro t ht
  simp [Token.isIdent_eq_false (ho t ht)]

namespace Keeps

theorem write (h : Keeps ts out (ops ++ base)) (ho : Operators ops) :
    Keeps ts (ops.reverse ++ out) base where
  identifiers := by
    simp [filter_isIdent_operators ho, h.identifiers]
  operators := by
    have hp : (base ++ (ops.reverse ++ out)).Perm (ops ++ base ++ out) := by
      rw [← List.append_assoc]
      apply List.Perm.append_right
      exact ((List.reverse_perm ops).append_left base).trans List.perm_append_comm
    exact (hp.filter _).trans h.operators
  isIdent_or_isOperator := List.forall_mem_append.2
    ⟨fun t ht => .inr (ho t (List.mem_reverse.1 ht)), h.isIdent_or_isOperator⟩

theorem ident (h : Keeps ts out pending) (text : String) :
    Keeps (ts ++ [.ident text]) (.ident text :: out) pending where
  identifiers := by simp [h.identifiers]
  operators := by simpa [Token.isOperator] using h.operators
  isIdent_or_isOperator := List.forall_mem_cons.2 ⟨.inl rfl, h.isIdent_or_isOperator⟩

theorem push (h : Keeps ts out pending) (ht : t.isIdent = false) :
    Keeps (ts ++ [t]) out (t :: pending) where
  identifiers := by simp [h.identifiers, ht]
  operators := by
    have hp := h.operators.append_left ([t].filter Token.isOperator)
    rw [← List.filter_append] at hp
    rw [List.filter_append ts]
    exact hp.trans List.perm_append_comm
  isIdent_or_isOperator := h.isIdent_or_isOperator

theorem close (h : Keeps ts out (.leftParen :: pending)) :
    Keeps (ts ++ [.rightParen]) out pending where
  identifiers := by simp [h.identifiers, Token.isIdent]
  operators := by simpa [Token.isOperator] using h.operators
  isIdent_or_isOperator := h.isIdent_or_isOperator

theorem connective (c : Connective) (h : Keeps ts s.output s.pending) (hr : Reads ts s)
    (hs : s.step c.token = .ok s') : Keeps (ts ++ [c.token]) s'.output s'.pending := by
  cases hr with
  | awaiting hp hi ho => cases c <;> cases hs
  | complete hp hi ho =>
    rw [step_connective, writeOperators_append ho hp.closed] at hs
    cases hs
    have hc : c.token.isIdent = false := by
      cases c <;> rfl
    exact (h.write ho).push hc

theorem rightParen (h : Keeps ts s.output s.pending) (hr : Reads ts s)
    (hs : s.step .rightParen = .ok s') :
    Keeps (ts ++ [.rightParen]) s'.output s'.pending := by
  cases hr with
  | awaiting hp hi ho =>
    rw [Conversion.step] at hs
    split at hs <;> cases hs
  | complete hp hi ho =>
    cases hp with
    | start =>
      rw [Conversion.step, List.append_nil, closeParen?_operators ho] at hs
      cases hs
    | paren hp' hi' ho' =>
      rw [Conversion.step, closeParen?_append ho] at hs
      cases hs
      exact (h.write ho).close

theorem step (h : Keeps ts s.output s.pending) (hr : Reads ts s) (t : Token)
    (hs : s.step t = .ok s') : Keeps (ts ++ [t]) s'.output s'.pending := by
  cases t with
  | ident text =>
    cases hr with
    | awaiting hp hi ho =>
      cases hs
      exact h.ident text
    | complete hp hi ho => cases hs
  | not | leftParen =>
    cases hr with
    | awaiting hp hi ho =>
      cases hs
      exact h.push rfl
    | complete hp hi ho => cases hs
  | rightParen => exact h.rightParen hr hs
  | and => exact h.connective .and hr hs
  | or => exact h.connective .or hr hs
  | comma => cases hs
  | boundary => cases hs

theorem after (h : Keeps ts s.output s.pending) (hr : Reads ts s) (ha : s.after us = .ok s') :
    Keeps (ts ++ us) s'.output s'.pending := by
  induction us generalizing ts s with
  | nil =>
    cases ha
    rwa [List.append_nil]
  | cons t us ih =>
    obtain ⟨s₁, hs, ha⟩ := Conversion.after_cons.1 ha
    simpa using ih (h.step hr t hs) (hr.step t hs) ha

theorem rearranges (h : Keeps ts out []) : Rearranges ts out.reverse where
  identifiers := h.identifiers
  operators := ((List.reverse_perm out).filter _).trans h.operators
  isIdent_or_isOperator t ht := h.isIdent_or_isOperator t (List.mem_reverse.1 ht)

theorem finish (h : Keeps ts s.output s.pending) (hr : Reads ts s)
    (hf : s.finish = .ok postfixed) : Rearranges ts postfixed := by
  cases hr with
  | awaiting hp hi ho => cases hf
  | complete hp hi ho =>
    cases hp with
    | start =>
      rw [List.append_nil, Conversion.finish, if_neg Bool.false_ne_true,
        writeRest_operators ho] at hf
      cases hf
      simpa using (h.write ho).rearranges
    | paren hp' hi' ho' =>
      rw [Conversion.finish, if_neg Bool.false_ne_true, writeRest_leftParen] at hf
      cases hf

end Keeps

theorem exists_after_of_toPostfix (h : toPostfix ts = .ok postfixed) :
    ∃ s, Conversion.start.after ts = .ok s ∧ s.finish = .ok postfixed := by
  rw [toPostfix, ← List.append_nil ts] at h
  obtain ⟨s, hs⟩ := exists_after_of_convertFrom h
  refine ⟨s, hs, ?_⟩
  rw [convertFrom_of_after hs, convertFrom] at h
  cases hf : s.finish with
  | error e =>
    rw [hf] at h
    cases h
  | ok out =>
    rw [hf] at h
    cases h
    rfl

theorem exists_postfixed_of_toPostfix (h : toPostfix ts = .ok postfixed) :
    ∃ tree, Chain ts tree ∧ Postfix postfixed tree := by
  obtain ⟨tree, hc⟩ := exists_chain_of_toPostfix h
  obtain ⟨postfixed', hp, ht⟩ := hc.toPostfix
  cases h.symm.trans hp
  exact ⟨tree, hc, ht⟩

theorem rearranges_of_toPostfix (h : toPostfix ts = .ok postfixed) : Rearranges ts postfixed := by
  obtain ⟨s, hs, hf⟩ := exists_after_of_toPostfix h
  exact (keeps_nil.after reads_start hs).finish (reads_start.after hs) hf

end Output

section Errors

/-- The errors of infixed queries. Only a connective can lack an operand, and no operand is left
over. -/
inductive Reported : QueryError → Prop
  | empty : Reported .empty
  | unexpectedToken (t : Token) : Reported (.unexpectedToken t)
  | missingLeftParen : Reported .missingLeftParen
  | missingRightParen : Reported .missingRightParen
  | incomplete : Reported .incomplete
  | tooFewOperands (c : Connective) : Reported (.tooFewOperands c.token)
  | tooDeep : Reported .tooDeep

theorem not_reported_tooManyOperands (n : Nat) : ¬Reported (.tooManyOperands n) := by
  intro h
  cases h

theorem not_reported_tooFewOperands_not : ¬Reported (.tooFewOperands .not) := by
  generalize he : QueryError.tooFewOperands .not = e
  intro h
  cases h with
  | tooFewOperands c => cases c <;> cases he
  | _ => cases he

theorem reported_of_connective (c : Connective) (h : s.step c.token = .error e) : Reported e := by
  obtain ⟨out, pending, expectsOperand⟩ := s
  cases expectsOperand with
  | true =>
    cases c <;> cases h
    · exact .tooFewOperands .and
    · exact .tooFewOperands .or
  | false =>
    rw [step_connective] at h
    cases h

theorem reported_of_step (h : s.step t = .error e) : Reported e := by
  cases t with
  | ident text | not | leftParen =>
    rw [Conversion.step] at h
    split at h
    · cases h
    · cases h
      exact .unexpectedToken _
  | rightParen =>
    rw [Conversion.step] at h
    split at h
    · cases h
      exact .missingLeftParen
    · split at h
      · cases h
        exact .incomplete
      · cases h
  | and => exact reported_of_connective .and h
  | or => exact reported_of_connective .or h
  | comma | boundary =>
    cases h
    exact .unexpectedToken _

theorem reported_of_finish (h : s.finish = .error e) : Reported e := by
  rcases Conversion.finish_eq_error h with rfl | rfl
  · exact .incomplete
  · exact .missingRightParen

theorem reported_of_toPostfix (h : toPostfix ts = .error r) : Reported r.error := by
  rcases convertFrom_eq_error h with ⟨_, _, _, _, _, hs⟩ | ⟨_, _, hf, _⟩
  · exact reported_of_step hs
  · exact reported_of_finish hf

theorem reported_of_parseTokens (h : parseTokens ts = .error e) : Reported e := by
  cases hp : toPostfix ts with
  | error r =>
    rw [parseTokens, hp] at h
    cases h
    exact reported_of_toPostfix hp
  | ok postfixed =>
    obtain ⟨tree, hc⟩ := exists_chain_of_toPostfix hp
    rw [hc.parseTokens] at h
    split at h
    · cases h
    · cases h
      exact .tooDeep

theorem reported_of_parse {query : String} (h : parse query = .error e) : Reported e := by
  rw [parse, bind_eq_error_iff] at h
  rcases h with hl | ⟨ts, _, hp⟩
  · rw [Lexer.lex] at hl
    split at hl
    · cases hl
      exact .empty
    · cases hl
  · rcases bind_eq_error_iff.1 hp with hp | ⟨tree, _, hp⟩
    · exact reported_of_parseTokens hp
    · cases hp

end Errors

/-- What a conversion gives is in postfix order, so that the operands are never wrong when they are
counted. Counting them is as strict as folding the tokens to trees, whatever tokens they are. -/
structure BalancesOperands : Prop where
  rearranges : ∀ ts postfixed, toPostfix ts = .ok postfixed → Rearranges ts postfixed
  checkOperands_eq : ∀ ts postfixed, toPostfix ts = .ok postfixed →
    checkOperands postfixed = .ok ()
  build_eq : ∀ ts postfixed, toPostfix ts = .ok postfixed → ∃ e, Chain ts e ∧
    build postfixed = if e.depth ≤ Expr.maxDepth then .ok e else .error .tooDeep
  parse_ne_tooManyOperands : ∀ query n, parse query ≠ .error (.tooManyOperands n)
  parse_ne_tooFewOperands : ∀ query, parse query ≠ .error (.tooFewOperands .not)
  buildStep_eq : ∀ stack t, buildStep stack t = foldStep stack t >>= limit
  checkOperands_eq_ok_iff : ∀ ts,
    checkOperands ts = .ok () ↔ ∃ p, ts.foldlM foldStep [] = .ok [p]
  build_of_checkOperands : ∀ ts, checkOperands ts = .ok () →
    (∃ e, build ts = .ok e) ∨ build ts = .error .tooDeep

theorem balancesOperands : BalancesOperands := by
  constructor
  case rearranges => exact fun ts postfixed h => rearranges_of_toPostfix h
  case checkOperands_eq =>
    intro ts postfixed h
    obtain ⟨tree, _, hp⟩ := exists_postfixed_of_toPostfix h
    exact hp.checkOperands
  case build_eq =>
    intro ts postfixed h
    obtain ⟨tree, hc, hp⟩ := exists_postfixed_of_toPostfix h
    exact ⟨tree, hc, hp.build⟩
  case parse_ne_tooManyOperands =>
    exact fun query n h => not_reported_tooManyOperands n (reported_of_parse h)
  case parse_ne_tooFewOperands =>
    exact fun query h => not_reported_tooFewOperands_not (reported_of_parse h)
  case buildStep_eq => exact Infixed.buildStep_eq
  case checkOperands_eq_ok_iff => exact fun ts => Infixed.checkOperands_eq_ok_iff
  case build_of_checkOperands =>
    intro ts h
    obtain ⟨p, hp⟩ := Infixed.checkOperands_eq_ok_iff.1 h
    rcases build_of_foldlM hp with hb | hb
    · exact .inl ⟨p.expr, hb⟩
    · exact .inr hb

theorem balanced_of_negated_group : ∃ ts postfixed p,
    ts = [.not, .leftParen, .ident "a", .or, .ident "b", .rightParen, .and, .ident "a"] ∧
      toPostfix ts = .ok postfixed ∧ Rearranges ts postfixed ∧
        checkOperands postfixed = .ok () ∧ postfixed.foldlM foldStep [] = .ok [p] := by
  have ht : toPostfix [.not, .leftParen, .ident "a", .or, .ident "b", .rightParen, .and,
      .ident "a"] = .ok [.ident "a", .ident "b", .or, .not, .ident "a", .and] := rfl
  have hc := balancesOperands.checkOperands_eq _ _ ht
  obtain ⟨p, hp⟩ := (balancesOperands.checkOperands_eq_ok_iff _).1 hc
  exact ⟨_, _, p, rfl, ht, balancesOperands.rearranges _ _ ht, hc, hp⟩

/-- Tokens that no query has in postfix order are folded like `&`. -/
example : checkOperands [.ident "a", .ident "b", .comma] = .ok () := rfl

end Infixed

end Retrieval.Query
