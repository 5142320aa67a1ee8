import Retrieval.Query.Evaluation
import Retrieval.Proofs.Query.Compiled

namespace Retrieval.Query

namespace Expr

open Index

mutual

/-- What `evaluate` finds with no more than this many of its calls inside one another. -/
def evaluateWithin (ix : Index) : Nat → Expr → Option DocList
  | 0, _ => none
  | _ + 1, .term text => some (ix.documents (ix.preprocessor.term text))
  | n + 1, .not e => (evaluateWithin ix n e).map (·.not ix.allDocuments)
  | _ + 1, .all [] => some .empty
  | n + 1, .all (e :: es) =>
    (evaluateWithin ix n e).bind fun found => evaluateAllWithin ix n found es
  | n + 1, .any es => evaluateAnyWithin ix n .empty es

def evaluateAllWithin (ix : Index) (n : Nat) (found : DocList) : List Expr → Option DocList
  | [] => some found
  | e :: es =>
    if found.isEmpty then some found
    else (evaluateWithin ix n e).bind fun more => evaluateAllWithin ix n (found.and more) es

def evaluateAnyWithin (ix : Index) (n : Nat) (found : DocList) : List Expr → Option DocList
  | [] => some found
  | e :: es => (evaluateWithin ix n e).bind fun more => evaluateAnyWithin ix n (found.or more) es

end

mutual

theorem evaluateWithin_eq (ix : Index) {n : Nat} {e : Expr} (h : e.depth ≤ n) :
    evaluateWithin ix n e = some (e.evaluate ix) := by
  match n, e with
  | 0, .term _ | 0, .all _ | 0, .any _ | 0, .not _ =>
    rw [depth] at h
    omega
  | n + 1, .term text => rw [evaluateWithin, evaluate]
  | n + 1, .not e =>
    rw [depth] at h
    rw [evaluateWithin, evaluateWithin_eq ix (Nat.le_of_succ_le_succ h), evaluate]
    rfl
  | n + 1, .all [] => rw [evaluateWithin, evaluate]
  | n + 1, .all (e :: es) =>
    rw [depth, depthList] at h
    rw [evaluateWithin, evaluateWithin_eq ix (by omega), evaluate]
    exact evaluateAllWithin_eq ix (by omega) _
  | n + 1, .any es =>
    rw [depth] at h
    rw [evaluateWithin, evaluate]
    exact evaluateAnyWithin_eq ix (Nat.le_of_succ_le_succ h) _

theorem evaluateAllWithin_eq (ix : Index) {n : Nat} {es : List Expr} (h : depthList es ≤ n)
    (found : DocList) : evaluateAllWithin ix n found es = some (evaluateAll ix found es) := by
  match es with
  | [] => rw [evaluateAllWithin, evaluateAll]
  | e :: es =>
    rw [depthList] at h
    rw [evaluateAllWithin, evaluateAll]
    split
    · rfl
    · rw [evaluateWithin_eq ix (by omega)]
      exact evaluateAllWithin_eq ix (by omega) _

theorem evaluateAnyWithin_eq (ix : Index) {n : Nat} {es : List Expr} (h : depthList es ≤ n)
    (found : DocList) : evaluateAnyWithin ix n found es = some (evaluateAny ix found es) := by
  match es with
  | [] => rw [evaluateAnyWithin, evaluateAny]
  | e :: es =>
    rw [depthList] at h
    rw [evaluateAnyWithin, evaluateAny, evaluateWithin_eq ix (by omega)]
    exact evaluateAnyWithin_eq ix (by omega) _

end

theorem depthList_congr {es es' : List Expr} (h : ∀ e, e ∈ es ↔ e ∈ es') :
    depthList es = depthList es' := by
  apply Nat.le_antisymm
  · exact depthList_le_iff.2 fun e he => depthList_le_iff.1 (Nat.le_refl _) e ((h e).1 he)
  · exact depthList_le_iff.2 fun e he => depthList_le_iff.1 (Nat.le_refl _) e ((h e).2 he)

theorem depthList_map {f : Expr → Expr} {es : List Expr} (h : ∀ e ∈ es, (f e).depth = e.depth) :
    depthList (es.map f) = depthList es := by
  induction es with
  | nil => rfl
  | cons e es ih =>
    obtain ⟨he, hes⟩ := List.forall_mem_cons.1 h
    rw [List.map_cons, depthList, depthList, he, ih hes]

theorem depth_distinct (e : Expr) : e.distinct.depth = e.depth := by
  induction e using Expr.induction with
  | term text => rfl
  | node c es ih =>
    rw [c.distinct_node, c.depth_node, c.depth_node, depthList_congr fun e => mem_withoutRepeats,
      distinctList_eq_map, depthList_map ih]
  | not e ih => rw [distinct, depth, depth, ih]

end Expr

namespace Infixed

def parts (es : List Expr) : List Part :=
  es.map Part.of

theorem eq_of_pushPart {e : Expr} {stack stack' : List Part}
    (h : pushPart (Part.of e) stack = .ok stack') : stack' = Part.of e :: stack := by
  rw [pushPart_of] at h
  split at h
  · cases h
    rfl
  · cases h

theorem buildStep_of (es : List Expr) (t : Token) :
    (∃ e es', buildStep (parts es) t = pushPart (Part.of e) (parts es')) ∨
      ∃ u, buildStep (parts es) t = .error (.tooFewOperands u) := by
  cases t with
  | ident text => exact .inl ⟨.term text, es, rfl⟩
  | not =>
    match es with
    | [] => exact .inr ⟨_, rfl⟩
    | e :: es => exact .inl ⟨.not e, es, rfl⟩
  | or =>
    match es with
    | [] | [_] => exact .inr ⟨_, rfl⟩
    | r :: l :: es => exact .inl ⟨l.or r, es, buildStep_connective .or l r _⟩
  | and | leftParen | rightParen | comma | boundary =>
    match es with
    | [] | [_] => exact .inr ⟨_, rfl⟩
    | r :: l :: es => exact .inl ⟨l.and r, es, buildStep_connective .and l r _⟩

theorem foldlM_buildStep_of {ts : List Token} {es : List Expr} {stack : List Part}
    (h : ts.foldlM buildStep (parts es) = .ok stack) : ∃ es', stack = parts es' := by
  induction ts generalizing es with
  | nil =>
    cases h
    exact ⟨es, rfl⟩
  | cons t ts ih =>
    rw [List.foldlM_cons] at h
    obtain ⟨stack', ht, hts⟩ := bind_eq_ok_iff.1 h
    rcases buildStep_of es t with ⟨e, es', hs⟩ | ⟨u, hu⟩
    · rw [hs] at ht
      rw [eq_of_pushPart ht] at hts
      exact @ih (e :: es') hts
    · rw [hu] at ht
      cases ht

theorem Chain.buildStep_eq {ts postfixed : List Token} {e : Expr} (h : Chain ts e)
    (hp : Infixed.toPostfix ts = .ok postfixed) {before after : List Token} {t : Token}
    {stack : List Part} (he : postfixed = before ++ t :: after)
    (hb : before.foldlM buildStep [] = .ok stack) :
    ∃ es e' es', stack = parts es ∧
      buildStep stack t = pushPart (Part.of e') (parts es') := by
  obtain ⟨postfixed', hp', hpe⟩ := h.toPostfix
  cases hp.symm.trans hp'
  obtain ⟨es, rfl⟩ := @foldlM_buildStep_of before [] stack hb
  rcases buildStep_of es t with ⟨e', es', hs⟩ | ⟨u, hu⟩
  · exact ⟨es, e', es', rfl, hs⟩
  · -- a chain does not run out of operands
    have hf := hpe.foldlM_buildStep []
    rw [he, foldlM_buildStep_append, hb, Except.bind, List.foldlM_cons, hu, pushPart_of] at hf
    split at hf <;> cases hf

theorem Chain.grouped {ts : List Token} {e : Expr} (h : Chain ts e) (n : Nat) :
    Chain (List.replicate n .leftParen ++ ts ++ List.replicate n .rightParen) e := by
  induction n with
  | zero => simpa using h
  | succ n ih =>
    rw [List.replicate_succ, List.replicate_succ', List.cons_append, List.cons_append,
      ← List.append_assoc]
    exact .factor (.group ih)

theorem Chain.foldl_join {ts : List Token} {l : Expr} (h : Chain ts l) (c : Connective)
    {fs : List (List Token × Expr)} (hf : ∀ f ∈ fs, Factor f.1 f.2) :
    Chain (ts ++ fs.flatMap fun f => c.token :: f.1) ((fs.map Prod.snd).foldl c.join l) := by
  induction fs generalizing ts l with
  | nil => simpa using h
  | cons f fs ih =>
    obtain ⟨hf, hfs⟩ := List.forall_mem_cons.1 hf
    have hc := ih (h.join c hf) hfs
    rwa [List.append_assoc] at hc

theorem parse_of_chain {query : String} {ts : List Token} {e : Expr}
    (hl : Lexer.lex .infixed query = .ok ts) (h : Chain ts e) : parse query =
      if e.depth ≤ Expr.maxDepth then .ok (e, .ofList ts) else .error .tooDeep := by
  rw [parse, hl]
  change (parseTokens ts >>= fun e => pure (e, TokenStream.ofList ts)) = _
  rw [h.parseTokens]
  split <;> rfl

end Infixed

namespace Functional

theorem expression_of_maxDepth_le {depth : Nat} (hd : Expr.maxDepth ≤ depth) (ts : List Token) :
    expression depth ts = .error .tooDeep := by
  unfold expression
  rw [if_pos hd]

theorem parenthesized_of_error {α : Type} {read : (ts : List Token) → Reading α ts}
    {ts : List Token} {e : QueryError} (h : read ts = .error e) :
    parenthesized read (.leftParen :: ts) = .error e := by
  rw [parenthesized, expect_self]
  change (read ts).bind _ = _
  rw [h]
  rfl

theorem operation_of_error {α : Type} {ts : List Token} {depth : Nat} (hd : depth < Expr.maxDepth)
    (t : Token) (node : α → Expr) (e : QueryError) :
    operation depth t node (.error e : Reading α ts) = .error e := by
  rw [operation, if_neg (Nat.not_le.2 hd)]
  rfl

theorem operands_of_error {depth : Nat} {ts : List Token} {e : QueryError}
    (h : expression (depth + 1) ts = .error e) : operands depth ts = .error e := by
  unfold operands
  rw [h]

theorem operands_of_comma_error {depth : Nat} {ts us : List Token} {a : Expr} {e : QueryError}
    (h : Gives (expression (depth + 1) ts) a (.comma :: us)) (hs : operands depth us = .error e) :
    operands depth ts = .error e := by
  obtain ⟨_, h⟩ := h
  unfold operands
  rw [h]
  simp only [hs]

mutual

theorem Clause.expression_eq {ts : List Token} {e : Expr} (h : Clause ts e) (depth : Nat)
    (hd : Expr.maxDepth < depth + e.depth) (rest : List Token) :
    expression depth (ts ++ rest) = .error .tooDeep := by
  by_cases hle : Expr.maxDepth ≤ depth
  · exact expression_of_maxDepth_le hle _
  · have hlt := Nat.not_le.1 hle
    match h with
    | .ident text =>
      rw [Expr.depth] at hd
      omega
    | .not h =>
      rw [Expr.depth] at hd
      have he := Clause.expression_eq h (depth + 1) (by omega) (.rightParen :: rest)
      rw [List.cons_append, List.cons_append, List.append_assoc, expression_not]
      rw [List.singleton_append, parenthesized_of_error he, operation_of_error hlt]
    | .connective c h =>
      rw [c.depth_node] at hd
      have hs := Operands.operands_eq h depth (by omega) (.rightParen :: rest)
      rw [List.cons_append, List.cons_append, List.append_assoc, expression_connective,
        arguments_eq, List.singleton_append, parenthesized_of_error hs, operation_of_error hlt]

theorem Operands.operands_eq {ts : List Token} {es : List Expr} (h : Operands ts es) (depth : Nat)
    (hd : Expr.maxDepth < depth + 1 + Expr.depthList es) (rest : List Token) :
    operands depth (ts ++ rest) = .error .tooDeep := by
  match h with
  | .one h =>
    rw [Expr.depthList, Expr.depthList] at hd
    exact operands_of_error (Clause.expression_eq h (depth + 1) (by omega) rest)
  | @Operands.more ts us e es h hs =>
    rw [Expr.depthList] at hd
    rw [List.append_assoc, List.cons_append]
    -- the operands before the first one that is too deep are read
    by_cases he : Expr.maxDepth < depth + 1 + e.depth
    · exact operands_of_error (Clause.expression_eq h (depth + 1) he _)
    · have hg := h.gives (depth + 1) (Nat.not_lt.1 he) (.comma :: (us ++ rest))
      exact operands_of_comma_error hg (Operands.operands_eq hs depth (by omega) rest)

end

theorem parseTokens_of_clause {ts : List Token} {e : Expr} (h : Clause ts e) :
    parseTokens (.boundary :: (ts ++ [.boundary])) =
      if e.depth ≤ Expr.maxDepth then .ok e.distinct else .error .tooDeep := by
  by_cases hd : e.depth ≤ Expr.maxDepth
  · rw [if_pos hd]
    exact parseTokens_eq_ok_iff.2 ⟨ts, e, rfl, h, hd, rfl⟩
  · rw [if_neg hd, parseTokens, expect_self]
    have he := h.expression_eq 0 (by omega) [.boundary]
    simp only [he]

theorem parseBounded_of_clause {text : String} {ts : List Token} {e : Expr}
    (hl : Lexer.lex .functional text = .ok (.boundary :: (ts ++ [.boundary])))
    (h : Clause ts e) : parseBounded text =
      if e.depth ≤ Expr.maxDepth then .ok (e.distinct, .ofList (.boundary :: (ts ++ [.boundary])))
      else .error .tooDeep := by
  rw [parseBounded, hl]
  change (parseTokens (.boundary :: (ts ++ [.boundary])) >>= fun e => pure (e, _)) = _
  rw [parseTokens_of_clause h]
  split <;> rfl

end Functional

theorem Grammar.depth_le_of_compile {g : Grammar} {query : String} {q : Compiled}
    (h : g.compile query = .ok q) : q.expr.depth ≤ Expr.maxDepth := by
  rcases derived_of_compile h with ⟨ts, _, hd⟩ | ⟨ts, tree, _, hd, he⟩
  · exact hd
  · rwa [he, Expr.depth_distinct]

/-- Queries are refused for their depth exactly where it is over the limit. -/
structure NestingLimit : Prop where
  buildStep_eq : ∀ ts e, Infixed.Chain ts e → ∃ postfixed, Infixed.toPostfix ts = .ok postfixed ∧
    ∀ before t after stack, postfixed = before ++ t :: after →
      before.foldlM Infixed.buildStep [] = .ok stack → ∃ es e' es', stack = Infixed.parts es ∧
        Infixed.buildStep stack t = Infixed.pushPart (Infixed.Part.of e') (Infixed.parts es')
  parse_infixed : ∀ ts e, Infixed.Chain ts e →
    (Infixed.parseTokens ts = if e.depth ≤ Expr.maxDepth then .ok e else .error .tooDeep) ∧
      ∀ query, Lexer.lex .infixed query = .ok ts → Infixed.parse query =
        if e.depth ≤ Expr.maxDepth then .ok (e, .ofList ts) else .error .tooDeep
  /-- Parentheses that are not needed do not count. -/
  grouped : ∀ ts e, Infixed.Chain ts e → ∀ n,
    Infixed.Chain (List.replicate n .leftParen ++ ts ++ List.replicate n .rightParen) e
  foldl_join : ∀ (c : Connective) ts l fs, Infixed.Chain ts l → fs ≠ [] →
    (∀ f ∈ fs, Infixed.Factor f.1 f.2) → ∃ e,
      Infixed.Chain (ts ++ fs.flatMap fun f => c.token :: f.1) e ∧
        e.depth = max (Expr.depthList (c.operands l)) (Expr.depthList (fs.map Prod.snd)) + 1
  parse_functional : ∀ ts e, Functional.Clause ts e →
    (Functional.parseTokens (.boundary :: (ts ++ [.boundary])) =
      if e.depth ≤ Expr.maxDepth then .ok e.distinct else .error .tooDeep) ∧
      ∀ text, Lexer.lex .functional text = .ok (.boundary :: (ts ++ [.boundary])) →
        Functional.parseBounded text =
          if e.depth ≤ Expr.maxDepth then
            .ok (e.distinct, .ofList (.boundary :: (ts ++ [.boundary])))
          else .error .tooDeep
  depth_le : ∀ (g : Grammar) query q, g.compile query = .ok q → q.expr.depth ≤ Expr.maxDepth
  evaluateWithin_eq : ∀ (g : Grammar) query q, g.compile query = .ok q → ∀ ix,
    Expr.evaluateWithin ix Expr.maxDepth q.expr = some (q.evaluate ix)

theorem nestingLimit : NestingLimit := by
  constructor
  case buildStep_eq =>
    intro ts e h
    obtain ⟨postfixed, hp, _⟩ := h.toPostfix
    exact ⟨postfixed, hp, fun before t after stack he hb => h.buildStep_eq hp he hb⟩
  case parse_infixed =>
    exact fun ts e h => ⟨h.parseTokens, fun query hl => Infixed.parse_of_chain hl h⟩
  case grouped => exact fun ts e h n => h.grouped n
  case foldl_join =>
    intro c ts l fs h hn hf
    refine ⟨_, h.foldl_join c hf, ?_⟩
    cases fs with
    | nil => exact absurd rfl hn
    | cons f fs => rw [List.map_cons, c.foldl_join_cons, c.depth_node, Expr.depthList_append]
  case parse_functional =>
    exact fun ts e h => ⟨Functional.parseTokens_of_clause h, fun text hl =>
      Functional.parseBounded_of_clause hl h⟩
  case depth_le => exact fun g query q => Grammar.depth_le_of_compile
  case evaluateWithin_eq =>
    exact fun g query q h ix => Expr.evaluateWithin_eq ix (Grammar.depth_le_of_compile h)

theorem tooDeep_of_negations : ∃ e,
    Infixed.Chain (List.replicate 256 .not ++ [.ident "a"]) e ∧ e.depth = Expr.maxDepth + 1 ∧
      Infixed.parse (String.ofList (List.replicate 256 '!' ++ ['a'])) = .error .tooDeep := by
  have hf : ∀ n, ∃ e, Infixed.Factor (List.replicate n .not ++ [.ident "a"]) e ∧
      e.depth = n + 1 := by
    intro n
    induction n with
    | zero => exact ⟨_, .ident "a", rfl⟩
    | succ n ih =>
      obtain ⟨e, hf, hd⟩ := ih
      exact ⟨.not e, hf.not, congrArg (· + 1) hd⟩
  obtain ⟨e, hf, hd⟩ := hf 256
  have hc : Infixed.Chain (List.replicate 256 .not ++ [.ident "a"]) e := .factor hf
  have hn : ∀ cs : List Char, ¬(String.ofList (cs ++ ['a'])).isEmpty := by simp
  have hl : Lexer.lex .infixed (String.ofList (List.replicate 256 '!' ++ ['a'])) =
      .ok (List.replicate 256 .not ++ [.ident "a"]) := by
    rw [Lexer.lex, if_neg (hn _), String.toList_ofList]
    refine congrArg Except.ok ?_
    decide +kernel
  have hp := (nestingLimit.parse_infixed _ e hc).2 _ hl
  rw [hd, if_neg (by decide)] at hp
  exact ⟨e, hc, hd, hp⟩

end Retrieval.Query
