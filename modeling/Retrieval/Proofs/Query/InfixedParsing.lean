import Retrieval.Proofs.Except
import Retrieval.Proofs.Query.InfixedConversion

namespace Retrieval.Query.Infixed

open Conversion

/-- Tokens that are the start of a chain and that any operand completes to a chain. -/
def Awaits (ts : List Token) : Prop :=
  ∀ us e, Factor us e → ∃ e', Chain (ts ++ us) e'

theorem awaits_nil : Awaits [] :=
  fun _ e h => ⟨e, .factor h⟩

theorem Awaits.not {ts : List Token} (h : Awaits ts) : Awaits (ts ++ [.not]) := by
  intro us e hu
  obtain ⟨e', hc⟩ := h (.not :: us) (.not e) hu.not
  exact ⟨e', by simpa using hc⟩

theorem Chain.awaits {ts : List Token} {e : Expr} (h : Chain ts e) (c : Connective) :
    Awaits (ts ++ [c.token]) := by
  intro us e' hu
  exact ⟨c.join e e', by simpa using h.join c hu⟩

/-- The tokens up to an open parenthesis, with what is pending at it. -/
inductive Opened : List Token → List Token → Prop
  | start : Opened [] []
  | paren {outer inner ops base : List Token} (h : Opened outer base) (hi : Awaits inner)
    (ho : Operators ops) : Opened (outer ++ inner ++ [.leftParen]) (.leftParen :: (ops ++ base))

theorem Opened.closed {outer base : List Token} (h : Opened outer base) : Closed base := by
  cases h with
  | start => exact closed_nil
  | paren h hi ho => exact closed_leftParen _

/-- The state of a conversion after some tokens. Since the innermost open parenthesis they are a
chain, or they await an operand. -/
inductive Reads : List Token → Conversion → Prop
  | awaiting {outer inner ops base out : List Token} (h : Opened outer base) (hi : Awaits inner)
    (ho : Operators ops) : Reads (outer ++ inner) ⟨out, ops ++ base, true⟩
  | complete {outer inner ops base out : List Token} {e : Expr} (h : Opened outer base)
    (hi : Chain inner e) (ho : Operators ops) : Reads (outer ++ inner) ⟨out, ops ++ base, false⟩

theorem reads_start : Reads [] .start :=
  .awaiting .start awaits_nil operators_nil

theorem Reads.connective {ts : List Token} {s s' : Conversion} (c : Connective) (h : Reads ts s)
    (hs : s.step c.token = .ok s') : Reads (ts ++ [c.token]) s' := by
  cases h with
  | awaiting h hi ho => cases c <;> cases hs
  | complete h hi ho =>
    rw [step_connective, writeOperators_append ho h.closed] at hs
    cases hs
    rw [List.append_assoc]
    exact .awaiting h (hi.awaits c) (operators_connective c)

theorem Reads.rightParen {ts : List Token} {s s' : Conversion} (h : Reads ts s)
    (hs : s.step .rightParen = .ok s') : Reads (ts ++ [.rightParen]) s' := by
  cases h with
  | awaiting h hi ho =>
    rw [step] at hs
    split at hs <;> cases hs
  | @complete outer inner ops base out e h hi ho =>
    cases h with
    | start =>
      rw [step, List.append_nil, closeParen?_operators ho] at hs
      cases hs
    | @paren outer' inner' ops' base' h' hi' ho' =>
      rw [step, closeParen?_append ho] at hs
      cases hs
      obtain ⟨e', hc⟩ := hi' _ e (.group hi)
      have he : outer' ++ inner' ++ [.leftParen] ++ inner ++ [.rightParen] =
          outer' ++ (inner' ++ .leftParen :: (inner ++ [.rightParen])) := by simp
      rw [he]
      exact .complete h' hc ho'

theorem Reads.step {ts : List Token} {s s' : Conversion} (h : Reads ts s) (t : Token)
    (hs : s.step t = .ok s') : Reads (ts ++ [t]) s' := by
  cases t with
  | ident text =>
    cases h with
    | awaiting h hi ho =>
      cases hs
      obtain ⟨e, hc⟩ := hi _ _ (.ident text)
      rw [List.append_assoc]
      exact .complete h hc ho
    | complete h hi ho => cases hs
  | not =>
    cases h with
    | @awaiting outer inner ops base out h hi ho =>
      cases hs
      have hn : Operators (.not :: ops) := operators_append operators_not ho
      rw [List.append_assoc]
      exact .awaiting h hi.not hn
    | complete h hi ho => cases hs
  | leftParen =>
    cases h with
    | awaiting h hi ho =>
      cases hs
      rw [← List.append_nil (_ ++ [Token.leftParen])]
      exact .awaiting (.paren h hi ho) awaits_nil operators_nil
    | complete h hi ho => cases hs
  | rightParen => exact h.rightParen hs
  | and => exact h.connective .and hs
  | or => exact h.connective .or hs
  | comma => cases hs
  | boundary => cases hs

theorem Reads.finish {ts postfixed : List Token} {s : Conversion} (h : Reads ts s)
    (hf : s.finish = .ok postfixed) : ∃ e, Chain ts e := by
  cases h with
  | awaiting h hi ho => cases hf
  | complete h hi ho =>
    cases h with
    | start => exact ⟨_, hi⟩
    | paren h' hi' ho' =>
      rw [Conversion.finish, if_neg Bool.false_ne_true, writeRest_leftParen] at hf
      cases hf

theorem Reads.convertFrom {ts us postfixed : List Token} {s : Conversion} (h : Reads ts s)
    (hc : convertFrom s us = .ok postfixed) : ∃ e, Chain (ts ++ us) e := by
  induction us generalizing ts s with
  | nil =>
    rw [Infixed.convertFrom] at hc
    cases hf : s.finish with
    | error e =>
      rw [hf] at hc
      cases hc
    | ok out =>
      rw [List.append_nil]
      exact h.finish hf
  | cons t us ih =>
    cases hs : s.step t with
    | error e =>
      rw [Infixed.convertFrom, hs] at hc
      cases hc
    | ok s' =>
      rw [convertFrom_cons hs] at hc
      obtain ⟨e, he⟩ := ih (h.step t hs) hc
      exact ⟨e, by simpa using he⟩

theorem exists_chain_of_toPostfix {ts postfixed : List Token}
    (h : toPostfix ts = .ok postfixed) : ∃ e, Chain ts e :=
  reads_start.convertFrom h

theorem parseTokens_eq_ok_iff {ts : List Token} {e : Expr} :
    parseTokens ts = .ok e ↔ Chain ts e ∧ e.depth ≤ Expr.maxDepth := by
  constructor
  · intro h
    cases hp : toPostfix ts with
    | error r =>
      rw [parseTokens, hp] at h
      cases h
    | ok postfixed =>
      obtain ⟨e', hc⟩ := exists_chain_of_toPostfix hp
      rw [hc.parseTokens] at h
      split at h
      · next hd =>
        cases h
        exact ⟨hc, hd⟩
      · cases h
  · rintro ⟨hc, hd⟩
    rw [hc.parseTokens, if_pos hd]

theorem parse_eq_ok {query : String} {e : Expr} {s : TokenStream} :
    parse query = .ok (e, s) ↔
      ∃ ts, Lexer.lex .infixed query = .ok ts ∧ parseTokens ts = .ok e ∧ s = .ofList ts := by
  simp only [parse, bind_eq_ok_iff, pure, Except.pure, Except.ok.injEq, Prod.mk.injEq]
  constructor
  · rintro ⟨ts, hl, e', hp, rfl, rfl⟩
    exact ⟨ts, hl, hp, rfl⟩
  · rintro ⟨ts, hl, hp, rfl⟩
    exact ⟨ts, hl, e, hp, rfl, rfl⟩

/-- Infixed queries are the chains that are not nested too deeply. -/
theorem parse_eq_ok_iff_chain (query : String) (e : Expr) (s : TokenStream) :
    parse query = .ok (e, s) ↔ ∃ ts, Lexer.lex .infixed query = .ok ts ∧ Chain ts e ∧
      e.depth ≤ Expr.maxDepth ∧ s = .ofList ts := by
  simp only [parse_eq_ok, parseTokens_eq_ok_iff, and_assoc]

end Retrieval.Query.Infixed
