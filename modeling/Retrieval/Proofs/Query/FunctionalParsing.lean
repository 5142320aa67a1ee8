import Retrieval.Proofs.Except
import Retrieval.Proofs.Query.Escapes
import Retrieval.Proofs.Query.FunctionalGrammar
import Retrieval.Proofs.Query.FunctionalReading

namespace Retrieval.Query.Functional

mutual

theorem Clause.gives {ts : List Token} {e : Expr} (h : Clause ts e) (depth : Nat)
    (hd : depth + e.depth ≤ Expr.maxDepth) (rest : List Token) :
    Gives (expression depth (ts ++ rest)) e.distinct rest := by
  match h with
  | .ident text =>
    rw [Expr.depth] at hd
    exact gives_expression_ident_iff.2 ⟨hd, rfl, rfl⟩
  | .not h =>
    rw [Expr.depth] at hd
    have he := Clause.gives h (depth + 1) (by omega) (.rightParen :: rest)
    rw [List.cons_append, List.cons_append, List.append_assoc]
    exact gives_expression_not_iff.2 ⟨by omega, _, _, rfl, he, rfl⟩
  | .connective c h =>
    rw [c.depth_node] at hd
    have hs := Operands.gives h depth (by omega) (.rightParen :: rest) (by simp)
    rw [c.distinct_node, ← dropRepeated_nil, List.cons_append, List.cons_append, List.append_assoc]
    exact gives_expression_connective_iff.2 ⟨by omega, _, _, rfl, hs, rfl⟩

theorem Operands.gives {ts : List Token} {es : List Expr} (h : Operands ts es) (depth : Nat)
    (hd : depth + 1 + Expr.depthList es ≤ Expr.maxDepth) (rest : List Token)
    (hr : rest.head? ≠ some .comma) :
    Gives (operands depth (ts ++ rest)) (Expr.distinctList es) rest := by
  match h with
  | .one h =>
    rw [Expr.depthList, Expr.depthList] at hd
    have he := Clause.gives h (depth + 1) (by omega) rest
    exact gives_operands_iff.2 (.inl ⟨_, he, hr, rfl⟩)
  | @Operands.more ts us e es h hs =>
    rw [Expr.depthList] at hd
    have he := Clause.gives h (depth + 1) (by omega) (.comma :: (us ++ rest))
    have hes := Operands.gives hs depth (by omega) rest hr
    rw [List.append_assoc]
    exact gives_operands_iff.2 (.inr ⟨_, _, _, he, hes, rfl⟩)

end

mutual

theorem exists_clause_of_gives {depth : Nat} {ts rest : List Token} {e : Expr}
    (h : Gives (expression depth ts) e rest) : ∃ us tree, ts = us ++ rest ∧ Clause us tree ∧
      depth + tree.depth ≤ Expr.maxDepth ∧ e = tree.distinct := by
  match ts with
  | .ident text :: ts =>
    obtain ⟨hd, rfl, rfl⟩ := gives_expression_ident_iff.1 h
    exact ⟨_, _, rfl, .ident text, hd, rfl⟩
  | .not :: ts =>
    obtain ⟨hd, ts', e', rfl, he, rfl⟩ := gives_expression_not_iff.1 h
    obtain ⟨us, tree, rfl, hc, hd', rfl⟩ := exists_clause_of_gives he
    refine ⟨_, _, ?_, hc.not, ?_, rfl⟩
    · simp
    · rw [Expr.depth]
      omega
  | .and :: ts => exact exists_clause_of_connective .and h
  | .or :: ts => exact exists_clause_of_connective .or h
  | [] | .leftParen :: _ | .rightParen :: _ | .comma :: _ | .boundary :: _ =>
    unfold expression at h
    split at h <;> exact absurd h not_gives_error
termination_by (ts.length, 1)

theorem exists_clause_of_connective {depth : Nat} (c : Connective) {ts rest : List Token} {e : Expr}
    (h : Gives (expression depth (c.token :: ts)) e rest) :
    ∃ us tree, c.token :: ts = us ++ rest ∧ Clause us tree ∧
      depth + tree.depth ≤ Expr.maxDepth ∧ e = tree.distinct := by
  obtain ⟨hd, ts', es, rfl, hs, rfl⟩ := gives_expression_connective_iff.1 h
  obtain ⟨us, trees, rfl, ho, hd', rfl⟩ := exists_operands_of_gives hd hs
  refine ⟨_, _, ?_, .connective c ho, ?_, ?_⟩
  · simp
  · rw [c.depth_node]
    omega
  · rw [c.distinct_node, dropRepeated_nil]
termination_by (ts.length, 3)

theorem exists_operands_of_gives {depth : Nat} {ts rest : List Token} {es : List Expr}
    (hd : depth < Expr.maxDepth) (h : Gives (operands depth ts) es rest) :
    ∃ us trees, ts = us ++ rest ∧ Operands us trees ∧
      depth + 1 + Expr.depthList trees ≤ Expr.maxDepth ∧ es = Expr.distinctList trees := by
  rcases gives_operands_iff.1 h with ⟨e, he, hn, rfl⟩ | ⟨e, es', ts', he, hs, rfl⟩
  · obtain ⟨us, tree, rfl, hc, hd', rfl⟩ := exists_clause_of_gives he
    refine ⟨_, _, rfl, .one hc, ?_, rfl⟩
    rw [Expr.depthList, Expr.depthList]
    omega
  · -- there are fewer tokens after the comma, which ends the recursion
    have hl := he.1
    obtain ⟨us, tree, rfl, hc, hd', rfl⟩ := exists_clause_of_gives he
    obtain ⟨us', trees, rfl, ho, hd'', rfl⟩ := exists_operands_of_gives hd hs
    refine ⟨_, _, ?_, .more hc ho, ?_, rfl⟩
    · simp
    · rw [Expr.depthList]
      omega
termination_by (ts.length, 2)

end

theorem parseTokens_eq_ok_iff {ts : List Token} {e : Expr} :
    parseTokens ts = .ok e ↔ ∃ us tree, ts = .boundary :: (us ++ [.boundary]) ∧ Clause us tree ∧
      tree.depth ≤ Expr.maxDepth ∧ e = tree.distinct := by
  rw [parseTokens]
  constructor
  · intro h
    split at h
    · cases h
    · next u ts₁ h₁ hl =>
      split at h
      · cases h
      · next e' ts₂ h₂ he =>
        split at h
        · cases h
        · next u' h₃ hr =>
          cases h
          cases eq_cons_of_expect hl
          cases eq_cons_of_expect hr
          obtain ⟨us, tree, rfl, hc, hd, rfl⟩ := exists_clause_of_gives ⟨h₂, he⟩
          exact ⟨us, tree, rfl, hc, by omega, rfl⟩
        · cases h
  · rintro ⟨us, tree, rfl, hc, hd, rfl⟩
    obtain ⟨h', h⟩ := hc.gives 0 (by omega) [.boundary]
    simp only [expect_self, h]

theorem lex_eq_ok_iff {query : String} {ts : List Token} : Lexer.lex .functional query = .ok ts ↔
    ¬query.isEmpty ∧ Lexer.lexFrom .functional [] query.toList = ts := by
  rw [Lexer.lex]
  split <;> simp_all

theorem lex_bounded (query : String) : Lexer.lex .functional ("%" ++ query ++ "%") =
    .ok (.boundary :: Lexer.lexFrom .functional [] (query.toList ++ ['%'])) := by
  rw [lex_eq_ok_iff]
  constructor
  · simp
  · simp
    rw [Lexer.lexFrom_boundary]
    rfl

theorem parseBounded_eq_ok_iff {query : String} {e : Expr} {s : TokenStream} :
    parseBounded ("%" ++ query ++ "%") = .ok (e, s) ↔
      ∃ ts, Lexer.lexFrom .functional [] (query.toList ++ ['%']) = ts ∧
        parseTokens (.boundary :: ts) = .ok e ∧ s = .ofList (.boundary :: ts) := by
  simp only [parseBounded, lex_bounded, bind_eq_ok_iff, pure, Except.pure, Except.ok.injEq,
    Prod.mk.injEq]
  constructor
  · rintro ⟨_, rfl, e', hp, rfl, rfl⟩
    exact ⟨_, rfl, hp, rfl⟩
  · rintro ⟨ts, rfl, hp, rfl⟩
    exact ⟨_, rfl, e, hp, rfl, rfl⟩

theorem parse_eq_ok_iff {query : String} {e : Expr} {s : TokenStream} :
    parse query = .ok (e, s) ↔ Lexer.endsInEscape query.toList = false ∧
      ∃ ts tree, Lexer.lex .functional query = .ok ts ∧ Clause ts tree ∧
        tree.depth ≤ Expr.maxDepth ∧ e = tree.distinct ∧
        s = .ofList (.boundary :: (ts ++ [.boundary])) := by
  rw [parse]
  by_cases hq : query.isEmpty
  · simp [hq, lex_eq_ok_iff]
  · rw [if_neg hq, parseBounded_eq_ok_iff]
    simp only [lex_eq_ok_iff, hq, parseTokens_eq_ok_iff, List.cons.injEq, true_and]
    cases he : Lexer.endsInEscape query.toList with
    | true =>
      obtain ⟨ts, text, ht⟩ := Lexer.exists_lexFrom_append_singleton he .functional [] '%'
      refine iff_of_false ?_ (by simp)
      rintro ⟨_, rfl, ⟨us, tree, hu, _⟩, _⟩
      rw [ht] at hu
      cases (List.append_inj' hu rfl).2
    | false =>
      rw [Lexer.lexFrom_append_boundary he]
      constructor
      · rintro ⟨_, rfl, ⟨us, tree, hu, hc, hd, rfl⟩, rfl⟩
        cases (List.append_inj' hu rfl).1
        exact ⟨rfl, _, tree, ⟨by simp, rfl⟩, hc, hd, rfl, rfl⟩
      · rintro ⟨_, _, tree, ⟨_, rfl⟩, hc, hd, rfl, rfl⟩
        exact ⟨_, rfl, ⟨_, tree, rfl, hc, hd, rfl⟩, rfl⟩

theorem parse_ne_ok_of_unescaped {query : String} (h : Lexer.Unescaped '%' query.toList)
    (r : Expr × TokenStream) : parse query ≠ .ok r := by
  intro hp
  obtain ⟨before, after, hq, hb⟩ := h
  obtain ⟨_, ts, tree, hl, hc, _⟩ := parse_eq_ok_iff.1 hp
  obtain ⟨_, ht⟩ := lex_eq_ok_iff.1 hl
  rw [hq, Lexer.lexFrom_append_boundary hb] at ht
  have hn := hc.boundary_notMem
  rw [← ht] at hn
  simp at hn

/-- Functional queries are the expressions that are not nested too deeply, in a text that leaves
the boundaries around it alone. -/
theorem parse_eq_ok_iff_clause (query : String) (e : Expr) (s : TokenStream) :
    (parse query = .ok (e, s) ↔ Lexer.endsInEscape query.toList = false ∧
      ∃ ts tree, Lexer.lex .functional query = .ok ts ∧ Clause ts tree ∧
        tree.depth ≤ Expr.maxDepth ∧ e = tree.distinct ∧
        s = .ofList (.boundary :: (ts ++ [.boundary]))) ∧
    (Lexer.Unescaped '%' query.toList ∨ Lexer.endsInEscape query.toList = true →
      ∀ r, parse query ≠ .ok r) := by
  refine ⟨parse_eq_ok_iff, ?_⟩
  rintro (hu | he) r
  · exact parse_ne_ok_of_unescaped hu r
  · intro hp
    obtain ⟨hn, _⟩ := parse_eq_ok_iff.1 hp
    rw [he] at hn
    cases hn

end Retrieval.Query.Functional
