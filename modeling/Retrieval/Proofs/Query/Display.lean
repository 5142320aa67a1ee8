import Retrieval.Proofs.Query.Agreement
import Retrieval.Proofs.Query.Layout
import Retrieval.Proofs.Query.Nesting

namespace Retrieval.Query

open Lexer Index

namespace Expr

theorem withoutRepeats_withoutRepeats {before before' : List Expr} (h : ∀ e ∈ before', e ∈ before)
    (es : List Expr) :
    withoutRepeats before' (withoutRepeats before es) = withoutRepeats before es := by
  induction es generalizing before before' with
  | nil => rfl
  | cons e es ih =>
    rw [withoutRepeats]
    split
    · exact ih fun e' he' => List.mem_append_left _ (h e' he')
    · next hn =>
      have hn' : ¬repeats before' e = true := by
        intro hr
        obtain ⟨text, rfl, ht⟩ := repeats_iff.1 hr
        exact hn (repeats_term_iff.2 (h _ ht))
      have hs : ∀ e' ∈ before' ++ [e], e' ∈ before ++ [e] := fun e' he' =>
        (List.mem_append.1 he').elim (fun he' => List.mem_append_left _ (h e' he'))
          (List.mem_append_right _)
      rw [withoutRepeats, if_neg hn', ih hs]

theorem distinct_distinct (e : Expr) : e.distinct.distinct = e.distinct := by
  induction e using Expr.induction with
  | term text => rfl
  | node c es ih =>
    have hs : ∀ e ∈ withoutRepeats [] (es.map distinct), e.distinct = e := by
      intro e he
      obtain ⟨e', he', rfl⟩ := List.mem_map.1 (mem_withoutRepeats.1 he)
      exact ih e' he'
    rw [c.distinct_node, c.distinct_node, distinctList_eq_map es, distinctList_eq_map,
      List.map_congr_left hs, List.map_id', withoutRepeats_withoutRepeats fun e he => he]
  | not e ih => rw [distinct, distinct, ih]

theorem Occurs.mem_words {text : String} {n : Nat} {e : Expr} (h : e.Occurs text n) :
    ∃ negated, text ∈ e.words negated := by
  refine ⟨!decide (Even n), mem_words_iff.2 ⟨n, ?_, h⟩⟩
  simp

/-- Queries whose terms need no escapes. -/
def Plain (e : Expr) : Prop :=
  ∀ text n, e.Occurs text n → ∀ c ∈ text.toList, isReserved .functional c = false

theorem plain_term_iff {text : String} :
    (Expr.term text).Plain ↔ ∀ c ∈ text.toList, isReserved .functional c = false := by
  constructor
  · intro h
    exact h text 0 .term
  · intro h text' n ho
    obtain ⟨rfl, _⟩ := occurs_term_iff.1 ho
    exact h

theorem plain_node_iff (c : Connective) {es : List Expr} :
    (c.node es).Plain ↔ ∀ e ∈ es, e.Plain := by
  constructor
  · intro h e he text n ho
    exact h text n ((occurs_node_iff c).2 ⟨e, he, ho⟩)
  · intro h text n ho
    obtain ⟨e, he, ho⟩ := (occurs_node_iff c).1 ho
    exact h e he text n ho

theorem plain_not_iff {e : Expr} : (Expr.not e).Plain ↔ e.Plain := by
  constructor
  · intro h text n ho
    exact h text (n + 1) ho.not
  · intro h text n ho
    obtain ⟨m, _, ho⟩ := occurs_not_iff.1 ho
    exact h text m ho

end Expr

theorem Lexer.escape_eq_self {escaped : Char → Bool} {cs : List Char}
    (h : ∀ c ∈ cs, escaped c = false) : escape escaped cs = cs := by
  induction cs with
  | nil => rfl
  | cons c cs ih =>
    obtain ⟨hc, hcs⟩ := List.forall_mem_cons.1 h
    rw [escape, hc, if_neg Bool.false_ne_true, ih hcs]

namespace Expr

theorem display_node (c : Connective) (es : List Expr) :
    (c.node es).display.toList = c.sign :: '(' :: ((displayList es).toList ++ [')']) := by
  cases c <;> simp [Connective.node, display, Connective.sign]

theorem toList_displayList {escaped : Char → Bool} {es : List Expr}
    (h : ∀ e ∈ es, e.display.toList = e.functionalText escaped) :
    (displayList es).toList = functionalTexts escaped es := by
  induction es with
  | nil => rfl
  | cons e es ih =>
    obtain ⟨he, hes⟩ := List.forall_mem_cons.1 h
    cases es with
    | nil => rw [displayList, functionalTexts, he]
    | cons e' es =>
      rw [displayList.eq_3 _ _ (by simp), functionalTexts.eq_3 _ _ _ (by simp)]
      simp [he, ih hes]

theorem Plain.toList_display {e : Expr} (h : e.Plain) :
    e.display.toList = e.functionalText (isReserved .functional) := by
  induction e using Expr.induction with
  | term text =>
    rw [display, functionalText, escape_eq_self (plain_term_iff.1 h)]
  | node c es ih =>
    have hs := (plain_node_iff c).1 h
    rw [display_node, Functional.functionalText_node,
      toList_displayList fun e he => ih e he (hs e he)]
  | not e ih =>
    rw [display, functionalText, ← ih (plain_not_iff.1 h)]
    simp

end Expr

theorem RelevantWords.ident_mem_of_mem_select {text : String} {scopes : List Bool}
    {negating : Bool} {ts : List Token} (h : text ∈ select scopes negating ts) :
    .ident text ∈ ts := by
  induction ts generalizing scopes negating with
  | nil => exact absurd h List.not_mem_nil
  | cons t ts ih =>
    rw [List.mem_cons]
    cases t with
    | ident text' =>
      rw [select] at h
      split at h
      · exact .inr (ih h)
      · exact (List.mem_cons.1 h).imp (congrArg Token.ident) ih
    | and | or | not | leftParen | rightParen | comma | boundary => exact .inr (ih h)

theorem Infixed.ne_empty_of_occurs {query text : String} {e : Expr} {s : TokenStream} {n : Nat}
    (h : parse query = .ok (e, s)) (ho : e.Occurs text n) : text ≠ "" := by
  obtain ⟨ts, hl, hp, _⟩ := parse_eq_ok.1 h
  obtain ⟨hc, _⟩ := parseTokens_eq_ok_iff.1 hp
  obtain ⟨negated, hw⟩ := ho.mem_words
  have hs := hc.select [negated] []
  have hm : text ∈ RelevantWords.select [negated] false (ts ++ []) :=
    hs ▸ List.mem_append_left _ hw
  rw [List.append_nil] at hm
  exact writable_of_mem_lex hl (RelevantWords.ident_mem_of_mem_select hm)

theorem Functional.ne_empty_of_occurs {query text : String} {e : Expr} {s : TokenStream} {n : Nat}
    (h : parse query = .ok (e, s)) (ho : e.Occurs text n) : text ≠ "" := by
  obtain ⟨_, ts, tree, hl, hc, _, rfl, _⟩ := parse_eq_ok_iff.1 h
  obtain ⟨negated, hw⟩ := ho.mem_words
  have hs := hc.select [negated] false []
  rw [List.head?_cons, Option.getD_some, Bool.xor_false] at hs
  have hm : text ∈ RelevantWords.select [negated] false (ts ++ []) :=
    hs ▸ List.mem_append_left _ (Expr.mem_words_distinct.1 hw)
  rw [List.append_nil] at hm
  exact writable_of_mem_lex hl (RelevantWords.ident_mem_of_mem_select hm)

theorem Functional.parse_display {e : Expr} (hn : ∀ n, ¬e.Occurs "" n) (hp : e.Proper)
    (hd : e.depth ≤ Expr.maxDepth) (he : e.Plain) :
    ∃ s, parse e.display = .ok (e.distinct, s) := by
  have ht := parse_functionalText (fun _ h => h) hn hp hd
  rwa [← he.toList_display, String.ofList_toList] at ht

/-- The functional way of writing, in which queries are displayed, is read as the same query if that
has been read before; of another query it is read as an equivalent one without repeats. -/
theorem parse_display_of_parse {query : String} {e : Expr} {s : TokenStream} (he : e.Plain) :
    (Functional.parse query = .ok (e, s) → ∃ s', Functional.parse e.display = .ok (e, s')) ∧
      (Infixed.parse query = .ok (e, s) → ∃ e' s', Functional.parse e.display = .ok (e', s') ∧
        (∀ p cs, e'.evaluate ((Index.empty p).run cs) = e.evaluate ((Index.empty p).run cs)) ∧
        ∀ text, text ∈ s'.relevantWords.1 ↔ text ∈ s.relevantWords.1) := by
  constructor
  · intro h
    have hn : ∀ n, ¬e.Occurs "" n := fun n ho => Functional.ne_empty_of_occurs h ho rfl
    obtain ⟨_, ts, tree, _, hc, hd, rfl, _⟩ := Functional.parse_eq_ok_iff.1 h
    rw [← tree.depth_distinct] at hd
    have hp := Functional.parse_display hn hc.proper.distinct hd he
    rwa [tree.distinct_distinct] at hp
  · intro h
    have hn : ∀ n, ¬e.Occurs "" n := fun n ho => Infixed.ne_empty_of_occurs h ho rfl
    obtain ⟨ts, _, ht, _⟩ := Infixed.parse_eq_ok.1 h
    obtain ⟨hc, hd⟩ := Infixed.parseTokens_eq_ok_iff.1 ht
    obtain ⟨s', hp⟩ := Functional.parse_display hn hc.proper hd he
    refine ⟨e.distinct, s', hp, fun p cs => ?_, fun text => ?_⟩
    · have hx := (consistent_empty p).run cs
      exact Expr.evaluate_eq_of_holds_iff hx hc.proper.distinct hc.proper fun _ =>
        Expr.holds_distinct
    · rw [Functional.mem_relevantWords_of_parse hp, Infixed.mem_relevantWords_of_parse h,
        Expr.mem_words_distinct]

theorem parse_display_of_repeated_term : ∃ e s₁ s₂,
    Functional.parse "&(a, a, !(|(b, a)))" = .ok (e, s₁) ∧
      Infixed.parse "a & !(b | a)" = .ok (e, s₂) ∧ e.display = "&(a,!(|(b,a)))" ∧ e.Plain ∧
      (∃ s', Functional.parse e.display = .ok (e, s')) ∧
      ∃ e' s', Functional.parse e.display = .ok (e', s') ∧
        (∀ p cs, e'.evaluate ((Index.empty p).run cs) = e.evaluate ((Index.empty p).run cs)) ∧
        ∀ text, text ∈ s'.relevantWords.1 ↔ text ∈ s₂.relevantWords.1 := by
  let e : Expr := .all [.term "a", .not (.any [.term "b", .term "a"])]
  have he : e.Plain := by
    have ha : (Expr.term "a").Plain := Expr.plain_term_iff.2 (List.forall_mem_singleton.2 rfl)
    have hb : (Expr.term "b").Plain := Expr.plain_term_iff.2 (List.forall_mem_singleton.2 rfl)
    have ho : (Expr.any [.term "b", .term "a"]).Plain :=
      (Expr.plain_node_iff .or).2 (by simp [ha, hb])
    exact (Expr.plain_node_iff .and).2 (by simp [ha, Expr.plain_not_iff, ho])
  let ts : List Token := [.and, .leftParen, .ident "a", .comma, .ident "a", .comma, .not,
    .leftParen, .or, .leftParen, .ident "b", .comma, .ident "a", .rightParen, .rightParen,
    .rightParen]
  have hc : Functional.Clause ts
      (.all [.term "a", .term "a", .not (.any [.term "b", .term "a"])]) :=
    .connective .and (.more (.ident "a") (.more (.ident "a") (.one (.not
      (.connective .or (.more (.ident "b") (.one (.ident "a"))))))))
  have h₁ : Functional.parse "&(a, a, !(|(b, a)))" =
      .ok (e, .ofList (.boundary :: (ts ++ [.boundary]))) :=
    Functional.parse_eq_ok_iff.2 ⟨by decide, ts, _, rfl, hc, by decide, rfl, rfl⟩
  have h₂ : Infixed.parse "a & !(b | a)" = .ok (e, .ofList [.ident "a", .and, .not, .leftParen,
      .ident "b", .or, .ident "a", .rightParen]) := rfl
  exact ⟨e, _, _, h₁, h₂, by decide, he, (parse_display_of_parse he).1 h₁,
    (parse_display_of_parse he).2 h₂⟩

end Retrieval.Query
