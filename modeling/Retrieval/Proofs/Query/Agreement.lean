import Retrieval.Proofs.Query.Joined
import Retrieval.Proofs.Query.Relevance
import Retrieval.Proofs.Query.Spelling

namespace Retrieval.Query

open Lexer Index

namespace Expr

mutual

def functionalText (escaped : Char → Bool) : Expr → List Char
  | .term text => escape escaped text.toList
  | .all es => '&' :: '(' :: (functionalTexts escaped es ++ [')'])
  | .any es => '|' :: '(' :: (functionalTexts escaped es ++ [')'])
  | .not e => '!' :: '(' :: (functionalText escaped e ++ [')'])

def functionalTexts (escaped : Char → Bool) : List Expr → List Char
  | [] => []
  | [e] => functionalText escaped e
  | e :: es => functionalText escaped e ++ ',' :: functionalTexts escaped es

end

mutual

/-- The infixed way of writing a query, with escapes in its terms. All operands of a conjunction
or a disjunction are in one pair of parentheses. -/
def infixedText (escaped : Char → Bool) : Expr → List Char
  | .term text => escape escaped text.toList
  | .all es => '(' :: (infixedTexts escaped '&' es ++ [')'])
  | .any es => '(' :: (infixedTexts escaped '|' es ++ [')'])
  | .not e => '!' :: infixedText escaped e

def infixedTexts (escaped : Char → Bool) (sign : Char) : List Expr → List Char
  | [] => []
  | [e] => infixedText escaped e
  | e :: es => infixedText escaped e ++ sign :: infixedTexts escaped sign es

end

theorem infixedTexts_cons (escaped : Char → Bool) (sign : Char) (e : Expr) (es : List Expr) :
    infixedTexts escaped sign (e :: es) =
      infixedText escaped e ++ es.flatMap fun e' => sign :: infixedText escaped e' := by
  induction es generalizing e with
  | nil => rw [infixedTexts, List.flatMap_nil, List.append_nil]
  | cons e' es ih => rw [infixedTexts.eq_3 _ _ _ _ (by simp), ih, List.flatMap_cons, List.cons_append]

end Expr

def Connective.sign : Connective → Char
  | and => '&'
  | or => '|'

theorem Connective.symbol?_sign (c : Connective) (g : Grammar) :
    symbol? g c.sign = some c.token := by
  cases c <;> rfl

namespace Functional

variable {escaped : Char → Bool}

theorem functionalText_node (c : Connective) (es : List Expr) :
    (c.node es).functionalText escaped =
      c.sign :: '(' :: (Expr.functionalTexts escaped es ++ [')']) := by
  cases c <;> rfl

theorem spells_functionalTexts {es : List Expr} (hn : es ≠ [])
    (hs : ∀ e ∈ es, ∃ ts, Clause ts e ∧ Spells .functional (e.functionalText escaped) ts) :
    ∃ ts, Operands ts es ∧ Spells .functional (Expr.functionalTexts escaped es) ts := by
  induction es with
  | nil => exact absurd rfl hn
  | cons e es ih =>
    obtain ⟨⟨ts, hc, ht⟩, hs⟩ := List.forall_mem_cons.1 hs
    cases es with
    | nil => exact ⟨ts, .one hc, ht⟩
    | cons e' es =>
      obtain ⟨us, ho, hu⟩ := ih (List.cons_ne_nil _ _) hs
      have hu' : Spells .functional (',' :: Expr.functionalTexts escaped (e' :: es)) (.comma :: us) :=
        hu.cons rfl
      exact ⟨ts ++ .comma :: us, .more hc ho, ht.append hu' (stops_cons rfl _)⟩

theorem spells_functionalText (he : ∀ c, isReserved .functional c → escaped c) {e : Expr}
    (hn : ∀ n, ¬e.Occurs "" n) (hp : e.Proper) :
    ∃ ts, Clause ts e ∧ Spells .functional (e.functionalText escaped) ts := by
  induction e using Expr.induction with
  | term text =>
    have ht : text ≠ "" := fun h => hn 0 (h ▸ .term)
    exact ⟨_, .ident text, spells_escape he ht⟩
  | node c es ih =>
    obtain ⟨hne, hps⟩ := c.proper_node_iff.1 hp
    have hs : ∀ e ∈ es, ∃ ts, Clause ts e ∧ Spells .functional (e.functionalText escaped) ts :=
      fun e hm => ih e hm (fun n ho => hn n ((Expr.occurs_node_iff c).2 ⟨e, hm, ho⟩)) (hps e hm)
    obtain ⟨ts, ho, ht⟩ := spells_functionalTexts hne hs
    have hb := ht.append (spells_symbol (c := ')') rfl) (stops_cons rfl [])
    refine ⟨_, .connective c ho, ?_⟩
    rw [functionalText_node]
    exact (hb.cons rfl).cons (c.symbol?_sign .functional)
  | not e ih =>
    obtain ⟨ts, hc, ht⟩ := ih (fun n ho => hn (n + 1) ho.not) hp
    have hb := ht.append (spells_symbol (c := ')') rfl) (stops_cons rfl [])
    exact ⟨_, hc.not, (hb.cons rfl).cons rfl⟩

theorem Clause.ne_nil {ts : List Token} {e : Expr} (h : Clause ts e) : ts ≠ [] := by
  cases h <;> exact List.cons_ne_nil _ _

theorem parse_functionalText (he : ∀ c, isReserved .functional c → escaped c) {e : Expr}
    (hn : ∀ n, ¬e.Occurs "" n) (hp : e.Proper) (hd : e.depth ≤ Expr.maxDepth) :
    ∃ s, parse (String.ofList (e.functionalText escaped)) = .ok (e.distinct, s) := by
  obtain ⟨ts, hc, hs⟩ := spells_functionalText he hn hp
  have hl : lex .functional (String.ofList (e.functionalText escaped)) = .ok ts := by
    rw [lex_eq_ok_iff, hs.isEmpty_eq_false hc.ne_nil, String.toList_ofList, hs.lexFrom]
    exact ⟨Bool.false_ne_true, rfl⟩
  refine ⟨_, parse_eq_ok_iff.2 ⟨?_, ts, e, hl, hc, hd, rfl, rfl⟩⟩
  rw [String.toList_ofList]
  exact hs.endsInEscape

end Functional

namespace Infixed

variable {escaped : Char → Bool}

theorem infixedText_node (c : Connective) (es : List Expr) : (c.node es).infixedText escaped =
    '(' :: (Expr.infixedTexts escaped c.sign es ++ [')']) := by
  cases c <;> rfl

theorem spells_joined_operands (c : Connective) {es : List Expr}
    (hs : ∀ e ∈ es, ∃ ts, Factor ts e.joined ∧ Spells .infixed (e.infixedText escaped) ts)
    {ts : List Token} {l : Expr} {cs : List Char} (hc : Chain ts l) (ht : Spells .infixed cs ts) :
    ∃ us, Chain us ((es.map Expr.joined).foldl c.join l) ∧
      Spells .infixed (cs ++ es.flatMap fun e => c.sign :: e.infixedText escaped) us := by
  induction es generalizing ts l cs with
  | nil =>
    rw [List.flatMap_nil, List.append_nil]
    exact ⟨ts, hc, ht⟩
  | cons e es ih =>
    obtain ⟨⟨us, hf, hu⟩, hs⟩ := List.forall_mem_cons.1 hs
    have hsign := c.symbol?_sign .infixed
    have ht' := ht.append (hu.cons hsign) (stops_cons hsign _)
    obtain ⟨us', hc', hu'⟩ := ih hs (hc.join c hf) ht'
    rw [List.append_assoc] at hu'
    exact ⟨us', hc', hu'⟩

theorem spells_infixedText (he : ∀ c, isReserved .infixed c → escaped c) {e : Expr}
    (hn : ∀ n, ¬e.Occurs "" n) (hp : e.Proper) :
    ∃ ts, Factor ts e.joined ∧ Spells .infixed (e.infixedText escaped) ts := by
  induction e using Expr.induction with
  | term text =>
    have ht : text ≠ "" := fun h => hn 0 (h ▸ .term)
    exact ⟨_, .ident text, spells_escape he ht⟩
  | node c es ih =>
    obtain ⟨hne, hps⟩ := c.proper_node_iff.1 hp
    have hs : ∀ e ∈ es, ∃ ts, Factor ts e.joined ∧ Spells .infixed (e.infixedText escaped) ts :=
      fun e hm => ih e hm (fun n ho => hn n ((Expr.occurs_node_iff c).2 ⟨e, hm, ho⟩)) (hps e hm)
    cases es with
    | nil => exact absurd rfl hne
    | cons e es =>
      obtain ⟨⟨ts, hf, ht⟩, hs⟩ := List.forall_mem_cons.1 hs
      obtain ⟨us, hc, hu⟩ := spells_joined_operands c hs (.factor hf) ht
      have hb := hu.append (spells_symbol (c := ')') rfl) (stops_cons rfl [])
      rw [infixedText_node, Expr.infixedTexts_cons, Expr.joined_node]
      exact ⟨_, .group hc, hb.cons rfl⟩
  | not e ih =>
    obtain ⟨ts, hf, ht⟩ := ih (fun n ho => hn (n + 1) ho.not) hp
    exact ⟨_, hf.not, ht.cons rfl⟩

/-- Tokens that an identifier before them is not joined to. -/
def Apart (ts : List Token) : Prop :=
  ∀ text, ts.head? ≠ some (.ident text)

theorem joinIdentifiers_ident (text : String) {ts : List Token} (h : Apart ts) :
    joinIdentifiers (.ident text :: ts) = .ident text :: joinIdentifiers ts := by
  cases ts with
  | nil => rfl
  | cons t ts =>
    cases t with
    | ident text' => exact absurd rfl (h text')
    | and | or | not | leftParen | rightParen | comma | boundary => rfl

theorem joinIdentifiers_connective (c : Connective) (ts : List Token) :
    joinIdentifiers (c.token :: ts) = c.token :: joinIdentifiers ts := by
  cases c <;> rfl

theorem apart_connective (c : Connective) (ts : List Token) : Apart (c.token :: ts) := by
  cases c <;> simp [Apart, Connective.token]

mutual

theorem Factor.joinIdentifiers_append {ts : List Token} {e : Expr} (h : Factor ts e)
    {rest : List Token} (hr : Apart rest) :
    joinIdentifiers (ts ++ rest) = ts ++ joinIdentifiers rest := by
  match h with
  | .ident text => exact joinIdentifiers_ident text hr
  | .not h =>
    rw [List.cons_append, joinIdentifiers, Factor.joinIdentifiers_append h hr, List.cons_append]
    simp
  | .group h =>
    have hp : Apart (.rightParen :: rest) := by simp [Apart]
    have hc := Chain.joinIdentifiers_append h hp
    simp [joinIdentifiers, hc]

theorem Chain.joinIdentifiers_append {ts : List Token} {e : Expr} (h : Chain ts e)
    {rest : List Token} (hr : Apart rest) :
    joinIdentifiers (ts ++ rest) = ts ++ joinIdentifiers rest := by
  match h with
  | .factor h => exact Factor.joinIdentifiers_append h hr
  | .join c hl hr' =>
    rw [List.append_assoc, List.cons_append,
      Chain.joinIdentifiers_append hl (apart_connective c _), joinIdentifiers_connective,
      Factor.joinIdentifiers_append hr' hr, List.append_assoc, List.cons_append]

end

theorem Factor.ne_nil {ts : List Token} {e : Expr} (h : Factor ts e) : ts ≠ [] := by
  cases h <;> exact List.cons_ne_nil _ _

theorem parse_infixedText (he : ∀ c, isReserved .infixed c → escaped c) {e : Expr}
    (hn : ∀ n, ¬e.Occurs "" n) (hp : e.Proper) (hd : e.depth ≤ Expr.maxDepth) :
    ∃ s, parse (String.ofList (e.infixedText escaped)) = .ok (e.joined, s) := by
  obtain ⟨ts, hf, hs⟩ := spells_infixedText he hn hp
  have hj := hf.joinIdentifiers_append (show Apart [] by simp [Apart])
  rw [joinIdentifiers, List.append_nil] at hj
  have hl : lex .infixed (String.ofList (e.infixedText escaped)) = .ok ts := by
    rw [lex, hs.isEmpty_eq_false hf.ne_nil, if_neg Bool.false_ne_true, String.toList_ofList,
      hs.lexFrom]
    exact congrArg Except.ok hj
  have ht := parseTokens_eq_ok_iff.2 ⟨.factor hf, (e.depth_joined_le).trans hd⟩
  exact ⟨_, parse_eq_ok.2 ⟨ts, hl, ht, rfl⟩⟩

end Infixed

/-- Both ways of writing a query are understood. The trees that are read differ from it and from
each other, but all three find the same documents, and the same words count for ranking. -/
theorem parse_texts_agree {escaped escaped' : Char → Bool}
    (he : ∀ c, isReserved .functional c → escaped c)
    (he' : ∀ c, isReserved .infixed c → escaped' c) {e : Expr} (hn : ∀ n, ¬e.Occurs "" n)
    (hp : e.Proper) (hd : e.depth ≤ Expr.maxDepth) : ∃ e₁ s₁ e₂ s₂,
      Functional.parse (String.ofList (e.functionalText escaped)) = .ok (e₁, s₁) ∧
      Infixed.parse (String.ofList (e.infixedText escaped')) = .ok (e₂, s₂) ∧
      (∀ p cs, e₁.evaluate ((Index.empty p).run cs) = e.evaluate ((Index.empty p).run cs) ∧
        e₂.evaluate ((Index.empty p).run cs) = e.evaluate ((Index.empty p).run cs)) ∧
      ∀ text, text ∈ s₁.relevantWords.1 ↔ text ∈ s₂.relevantWords.1 := by
  obtain ⟨s₁, h₁⟩ := Functional.parse_functionalText he hn hp hd
  obtain ⟨s₂, h₂⟩ := Infixed.parse_infixedText he' hn hp hd
  have hp₂ : e.joined.Proper := by
    obtain ⟨_, hf, _⟩ := Infixed.spells_infixedText he' hn hp
    exact hf.proper
  refine ⟨e.distinct, s₁, e.joined, s₂, h₁, h₂, fun p cs => ?_, fun text => ?_⟩
  · have hc := (consistent_empty p).run cs
    exact ⟨Expr.evaluate_eq_of_holds_iff hc hp.distinct hp fun _ => Expr.holds_distinct,
      Expr.evaluate_eq_of_holds_iff hc hp₂ hp fun _ => Expr.holds_joined⟩
  · rw [Functional.mem_relevantWords_of_parse h₁, Infixed.mem_relevantWords_of_parse h₂,
      Expr.mem_words_distinct, Expr.words_joined]

theorem texts_agree_of_repeated_term : ∃ e : Expr,
    String.ofList (e.functionalText (isReserved .functional)) = "!(|(a\\ b,50\\%,a\\ b))" ∧
    String.ofList (e.infixedText (isReserved .infixed)) = "!(a\\ b|50%|a\\ b)" ∧
    (∀ n, ¬e.Occurs "" n) ∧ e.Proper ∧ e.depth ≤ Expr.maxDepth ∧ ∃ e₁ s₁ e₂ s₂,
      Functional.parse (String.ofList (e.functionalText (isReserved .functional))) = .ok (e₁, s₁) ∧
      Infixed.parse (String.ofList (e.infixedText (isReserved .infixed))) = .ok (e₂, s₂) ∧
      (∀ p cs, e₁.evaluate ((Index.empty p).run cs) = e.evaluate ((Index.empty p).run cs) ∧
        e₂.evaluate ((Index.empty p).run cs) = e.evaluate ((Index.empty p).run cs)) ∧
      ∀ text, text ∈ s₁.relevantWords.1 ↔ text ∈ s₂.relevantWords.1 := by
  let e : Expr := .not (.any [.term "a b", .term "50%", .term "a b"])
  have hn : ∀ n, ¬e.Occurs "" n := by
    intro n h
    obtain ⟨m, _, h⟩ := Expr.occurs_not_iff.1 h
    obtain ⟨t, ht, h⟩ := (Expr.occurs_node_iff .or).1 h
    simp only [List.mem_cons, List.not_mem_nil, or_false] at ht
    rcases ht with rfl | rfl | rfl <;> simp [Expr.occurs_term_iff] at h
  have hp : e.Proper := by simp [e, Expr.Proper, Expr.ProperList]
  have hd : e.depth ≤ Expr.maxDepth := by decide
  exact ⟨e, by decide, by decide, hn, hp, hd,
    parse_texts_agree (fun _ h => h) (fun _ h => h) hn hp hd⟩

end Retrieval.Query
