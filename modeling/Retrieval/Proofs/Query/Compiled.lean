import Retrieval.Query.Compiled
import Retrieval.Proofs.Query.FunctionalParsing
import Retrieval.Proofs.Query.InfixedParsing

namespace Retrieval.Query.Grammar

variable {g : Grammar} {query : String} {q : Compiled}

theorem derived_of_compile (h : g.compile query = .ok q) :
    (∃ ts, Infixed.Chain ts q.expr ∧ q.expr.depth ≤ Expr.maxDepth) ∨
      ∃ ts tree, Functional.Clause ts tree ∧ tree.depth ≤ Expr.maxDepth ∧
        q.expr = tree.distinct := by
  cases g with
  | infixed =>
    obtain ⟨⟨e, s⟩, hp, he⟩ := bind_eq_ok_iff.1 h
    cases he
    obtain ⟨ts, _, ht, _⟩ := Infixed.parse_eq_ok.1 hp
    exact .inl ⟨ts, Infixed.parseTokens_eq_ok_iff.1 ht⟩
  | functional =>
    obtain ⟨⟨e, s⟩, hp, he⟩ := bind_eq_ok_iff.1 h
    cases he
    obtain ⟨_, ts, tree, _, hc, hd, he, _⟩ := Functional.parse_eq_ok_iff.1 hp
    exact .inr ⟨ts, tree, hc, hd, he⟩

/-- A query that compiles has operands wherever it needs some, in either grammar. -/
theorem proper_of_compile (h : g.compile query = .ok q) : q.expr.Proper := by
  rcases derived_of_compile h with ⟨ts, hc, _⟩ | ⟨ts, tree, hc, _, he⟩
  · exact hc.proper
  · rw [he]
    exact hc.proper.distinct

end Retrieval.Query.Grammar
