import Retrieval.Query.RelevantWords
import Retrieval.Proofs.Query.FunctionalParsing
import Retrieval.Proofs.Query.InfixedParsing
import Retrieval.Proofs.Query.Occurrence

namespace Retrieval.Query

open RelevantWords

theorem RelevantWords.select_connective (c : Connective) (scopes : List Bool) (negating : Bool)
    (ts : List Token) : select scopes negating (c.token :: ts) = select scopes negating ts := by
  cases c <;> rfl

namespace Infixed

mutual

/-- An operand uses up the negation before it. The scopes are those of before when it ends. -/
theorem Factor.select {ts : List Token} {e : Expr} (h : Factor ts e) (scopes : List Bool)
    (negating : Bool) (rest : List Token) : select scopes negating (ts ++ rest) =
      e.words (scopes.head?.getD false ^^ negating) ++ select scopes false rest := by
  match h with
  | .ident text =>
    rw [List.singleton_append, RelevantWords.select, Expr.words]
    split <;> rfl
  | .not h =>
    have hn := Factor.select h scopes (!negating) rest
    rw [List.cons_append, RelevantWords.select, hn, Expr.words, Bool.xor_not]
  | .group h =>
    have hg := Chain.select h ((scopes.head?.getD false ^^ negating) :: scopes)
      (.rightParen :: rest)
    rw [List.cons_append, RelevantWords.select, List.append_assoc, List.singleton_append, hg]
    rfl

theorem Chain.select {ts : List Token} {e : Expr} (h : Chain ts e) (scopes : List Bool)
    (rest : List Token) : select scopes false (ts ++ rest) =
      e.words (scopes.head?.getD false) ++ select scopes false rest := by
  match h with
  | .factor h =>
    have hf := Factor.select h scopes false rest
    rwa [Bool.xor_false] at hf
  | .join c hl hr =>
    rename_i us l r
    have hl' := Chain.select hl scopes (c.token :: (us ++ rest))
    have hr' := Factor.select hr scopes false rest
    rw [Bool.xor_false] at hr'
    rw [List.append_assoc, List.cons_append, hl', select_connective, hr', Expr.words_join,
      List.append_assoc]

end

end Infixed

namespace Functional

mutual

theorem Clause.select {ts : List Token} {e : Expr} (h : Clause ts e) (scopes : List Bool)
    (negating : Bool) (rest : List Token) : select scopes negating (ts ++ rest) =
      e.words (scopes.head?.getD false ^^ negating) ++ select scopes false rest := by
  match h with
  | .ident text =>
    rw [List.singleton_append, RelevantWords.select, Expr.words]
    split <;> rfl
  | .not h =>
    have hn := Clause.select h ((scopes.head?.getD false ^^ !negating) :: scopes) false
      (.rightParen :: rest)
    rw [List.cons_append, List.cons_append, RelevantWords.select, RelevantWords.select,
      List.append_assoc, List.singleton_append, hn, Expr.words, Bool.xor_not, Bool.xor_false]
    rfl
  | .connective c h =>
    have hs := Operands.select h ((scopes.head?.getD false ^^ negating) :: scopes)
      (.rightParen :: rest)
    rw [List.cons_append, List.cons_append, select_connective, RelevantWords.select,
      List.append_assoc, List.singleton_append, hs, Expr.words_node]
    rfl

theorem Operands.select {ts : List Token} {es : List Expr} (h : Operands ts es)
    (scopes : List Bool) (rest : List Token) : select scopes false (ts ++ rest) =
      Expr.wordsList (scopes.head?.getD false) es ++ select scopes false rest := by
  match h with
  | .one h =>
    have hc := Clause.select h scopes false rest
    rw [Bool.xor_false] at hc
    rw [hc, Expr.wordsList, Expr.wordsList, List.append_nil]
  | @Operands.more ts us e es h hs =>
    have hc := Clause.select h scopes false (.comma :: (us ++ rest))
    have hs' := Operands.select hs scopes rest
    rw [Bool.xor_false] at hc
    rw [List.append_assoc, List.cons_append, hc, RelevantWords.select, hs', Expr.wordsList,
      List.append_assoc]

end

end Functional

theorem TokenStream.toList_ofList (ts : List Token) : (TokenStream.ofList ts).toList = ts := rfl

theorem TokenStream.mem_relevantWords {s : TokenStream} {text : String} :
    text ∈ s.relevantWords.1 ↔ text ∈ select [] false s.toList := by
  rw [relevantWords, ofTokens, Std.TreeSet.mem_ofList, List.contains_iff_mem]

theorem Infixed.mem_relevantWords_of_parse {query : String} {e : Expr} {s : TokenStream}
    (h : Infixed.parse query = .ok (e, s)) (text : String) :
    text ∈ s.relevantWords.1 ↔ text ∈ e.words false := by
  obtain ⟨ts, _, hp, rfl⟩ := Infixed.parse_eq_ok.1 h
  obtain ⟨hc, _⟩ := Infixed.parseTokens_eq_ok_iff.1 hp
  have hs := hc.select [] []
  rw [List.append_nil] at hs
  rw [TokenStream.mem_relevantWords, TokenStream.toList_ofList, hs]
  simp [RelevantWords.select]

theorem Functional.mem_relevantWords_of_parse {query : String} {e : Expr} {s : TokenStream}
    (h : Functional.parse query = .ok (e, s)) (text : String) :
    text ∈ s.relevantWords.1 ↔ text ∈ e.words false := by
  obtain ⟨_, ts, tree, _, hc, _, rfl, rfl⟩ := Functional.parse_eq_ok_iff.1 h
  have hs := hc.select [] false [.boundary]
  rw [TokenStream.mem_relevantWords, TokenStream.toList_ofList, RelevantWords.select, hs,
    Expr.mem_words_distinct]
  simp [RelevantWords.select]

/-- The words that ranking looks at are the terms with an even number of negations around them,
although they are taken from the tokens and the query is not looked at. The tokens can be gone
through again. -/
theorem mem_relevantWords_iff_occurs {query : String} {e : Expr} {s : TokenStream}
    (h : Infixed.parse query = .ok (e, s) ∨ Functional.parse query = .ok (e, s)) :
    (∀ text, text ∈ s.relevantWords.1 ↔ ∃ n, Even n ∧ e.Occurs text n) ∧
      s.relevantWords.2 = .ofList s.toList ∧
      s.relevantWords.2.relevantWords = s.relevantWords := by
  refine ⟨fun text => ?_, rfl, ?_⟩
  · have hw : text ∈ s.relevantWords.1 ↔ text ∈ e.words false := by
      rcases h with h | h
      · exact Infixed.mem_relevantWords_of_parse h text
      · exact Functional.mem_relevantWords_of_parse h text
    rw [hw, Expr.mem_words_iff]
    simp only [iff_true]
  · rw [TokenStream.relevantWords]
    rfl

theorem relevantWords_of_nested_negations : ∃ e s,
    Infixed.parse "!(a | !b) & !!c" = .ok (e, s) ∧ s.relevantWords.1.toList = ["b", "c"] ∧
      (∀ text, text ∈ s.relevantWords.1 ↔ ∃ n, Even n ∧ e.Occurs text n) ∧
      s.relevantWords.2 = .ofList s.toList ∧
      s.relevantWords.2.relevantWords = s.relevantWords := by
  have hp : Infixed.parse "!(a | !b) & !!c" =
      .ok (.all [.not (.any [.term "a", .not (.term "b")]), .not (.not (.term "c"))],
        .ofList [.not, .leftParen, .ident "a", .or, .not, .ident "b", .rightParen, .and, .not,
          .not, .ident "c"]) := rfl
  exact ⟨_, _, hp, by decide, mem_relevantWords_iff_occurs (.inl hp)⟩

end Retrieval.Query
