import Retrieval.Proofs.Query.InfixedParsing

namespace Retrieval.Query.Infixed

variable {ts us before postfixed : List Token} {t : Token} {s s' : Conversion} {e : QueryError}
  {r : Rejection}

def Conversion.after (s : Conversion) (ts : List Token) : Except QueryError Conversion :=
  ts.foldlM Conversion.step s

theorem Conversion.after_cons :
    s.after (t :: ts) = .ok s' ↔ ∃ s₁, s.step t = .ok s₁ ∧ s₁.after ts = .ok s' :=
  bind_eq_ok_iff

section Run

theorem convertFrom_of_after (h : s.after ts = .ok s') (us : List Token) :
    convertFrom s (ts ++ us) = convertFrom s' us := by
  induction ts generalizing s with
  | nil =>
    cases h
    rfl
  | cons t ts ih =>
    obtain ⟨s₁, hs, ha⟩ := Conversion.after_cons.1 h
    rw [List.cons_append, convertFrom_cons hs, ih ha]

theorem convertFrom_of_step_error (h : s.step t = .error e) (us : List Token) :
    convertFrom s (t :: us) = .error ⟨e, us⟩ := by
  rw [convertFrom, h]

theorem convertFrom_of_finish_error (h : s.finish = .error e) :
    convertFrom s [] = .error ⟨e, []⟩ := by
  rw [convertFrom, h]
  rfl

theorem exists_after_of_convertFrom (h : convertFrom s (ts ++ us) = .ok postfixed) :
    ∃ s', s.after ts = .ok s' := by
  induction ts generalizing s with
  | nil => exact ⟨s, rfl⟩
  | cons t ts ih =>
    rw [List.cons_append] at h
    cases hs : s.step t with
    | error e =>
      rw [convertFrom_of_step_error hs] at h
      cases h
    | ok s₁ =>
      rw [convertFrom_cons hs] at h
      obtain ⟨s', ha⟩ := ih h
      exact ⟨s', Conversion.after_cons.2 ⟨s₁, hs, ha⟩⟩

theorem convertFrom_eq_error (h : convertFrom s ts = .error r) :
    (∃ before t s', ts = before ++ t :: r.unread ∧ s.after before = .ok s' ∧
      s'.step t = .error r.error) ∨
      ∃ s', s.after ts = .ok s' ∧ s'.finish = .error r.error ∧ r.unread = [] := by
  induction ts generalizing s with
  | nil =>
    cases hf : s.finish with
    | error e =>
      rw [convertFrom_of_finish_error hf] at h
      cases h
      exact .inr ⟨s, rfl, hf, rfl⟩
    | ok out =>
      rw [convertFrom, hf] at h
      cases h
  | cons t ts ih =>
    cases hs : s.step t with
    | error e =>
      rw [convertFrom_of_step_error hs] at h
      cases h
      exact .inl ⟨[], t, s, rfl, rfl, hs⟩
    | ok s₁ =>
      rw [convertFrom_cons hs] at h
      obtain ⟨before, t', s', he, ha, ht⟩ | ⟨s', ha, hf, hu⟩ := ih h
      · refine .inl ⟨t :: before, t', s', ?_, Conversion.after_cons.2 ⟨s₁, hs, ha⟩, ht⟩
        rw [he, List.cons_append]
      · exact .inr ⟨s', Conversion.after_cons.2 ⟨s₁, hs, ha⟩, hf, hu⟩

theorem writeRest_eq_error {pending out : List Token} (h : Conversion.writeRest out pending = .error e) :
    e = .missingRightParen := by
  induction pending generalizing out with
  | nil => cases h
  | cons t pending ih =>
    rw [Conversion.writeRest] at h
    split at h
    · cases h
      rfl
    · exact ih h

theorem Conversion.finish_eq_error (h : s.finish = .error e) :
    e = .incomplete ∨ e = .missingRightParen := by
  rw [Conversion.finish] at h
  split at h
  · cases h
    exact .inl rfl
  · exact .inr (writeRest_eq_error h)

end Run

section Completion

/-- Tokens that can be continued to a query. -/
def Completable (ts : List Token) : Prop :=
  ∃ us postfixed, toPostfix (ts ++ us) = .ok postfixed

theorem completable_of_chain {tree : Expr} (h : Chain (ts ++ us) tree) : Completable ts := by
  obtain ⟨postfixed, hp, _⟩ := h.toPostfix
  exact ⟨us, postfixed, hp⟩

theorem Opened.exists_chain {outer inner base : List Token} {tree : Expr} (h : Opened outer base)
    (hi : Chain inner tree) : ∃ us tree', Chain (outer ++ inner ++ us) tree' := by
  induction h generalizing inner tree with
  | start => exact ⟨[], tree, by simpa using hi⟩
  | @paren outer inner' ops base h hi' ho ih =>
    obtain ⟨_, hc⟩ := hi' _ _ (.group hi)
    obtain ⟨us, tree', hu⟩ := ih hc
    exact ⟨.rightParen :: us, tree', by simpa using hu⟩

theorem Reads.completable (h : Reads ts s) : Completable ts := by
  cases h with
  | @awaiting outer inner _ _ _ h hi ho =>
    obtain ⟨_, hc⟩ := hi _ _ (.ident "")
    obtain ⟨us, tree, hu⟩ := h.exists_chain hc
    have hu' : Chain (outer ++ inner ++ .ident "" :: us) tree := by simpa using hu
    exact completable_of_chain hu'
  | complete h hi ho =>
    obtain ⟨us, _, hu⟩ := h.exists_chain hi
    exact completable_of_chain hu

theorem Reads.after (h : Reads ts s) (ha : s.after us = .ok s') : Reads (ts ++ us) s' := by
  induction us generalizing ts s with
  | nil =>
    cases ha
    rwa [List.append_nil]
  | cons t us ih =>
    obtain ⟨s₁, hs, ha⟩ := Conversion.after_cons.1 ha
    simpa using ih (h.step t hs) ha

theorem completable_iff : Completable ts ↔ ∃ s, Conversion.start.after ts = .ok s := by
  constructor
  · rintro ⟨us, postfixed, h⟩
    exact exists_after_of_convertFrom h
  · rintro ⟨s, ha⟩
    exact (reads_start.after ha).completable

theorem not_completable_of_step_error (ha : Conversion.start.after before = .ok s)
    (hs : s.step t = .error e) : ¬Completable (before ++ [t]) := by
  rintro ⟨us, postfixed, h⟩
  rw [List.append_assoc, toPostfix, convertFrom_of_after ha, List.singleton_append,
    convertFrom_of_step_error hs] at h
  cases h

end Completion

/-- A conversion fails at a token: the first one with which the tokens cannot be completed. What
stands behind it makes no difference. -/
structure FailsAt (ts : List Token) (r : Rejection) (before : List Token) (t : Token) : Prop where
  eq_append : ts = before ++ t :: r.unread
  exists_step : ∃ s, Conversion.start.after before = .ok s ∧ s.step t = .error r.error
  completable : Completable before
  not_completable : ¬Completable (before ++ [t])
  same_error : ∀ us, toPostfix (before ++ t :: us) = .error ⟨r.error, us⟩

structure FailsAtEnd (ts : List Token) (r : Rejection) : Prop where
  exists_finish : ∃ s, Conversion.start.after ts = .ok s ∧ s.finish = .error r.error
  unread : r.unread = []
  error : r.error = .incomplete ∨ r.error = .missingRightParen
  completable : Completable ts

theorem failsAt_of_step_error (ha : Conversion.start.after before = .ok s)
    (hs : s.step t = .error e) (us : List Token) :
    FailsAt (before ++ t :: us) ⟨e, us⟩ before t where
  eq_append := rfl
  exists_step := ⟨s, ha, hs⟩
  completable := completable_iff.2 ⟨s, ha⟩
  not_completable := not_completable_of_step_error ha hs
  same_error us' := by rw [toPostfix, convertFrom_of_after ha, convertFrom_of_step_error hs]

theorem failsAtEnd_of_finish_error (ha : Conversion.start.after ts = .ok s)
    (hf : s.finish = .error e) : FailsAtEnd ts ⟨e, []⟩ where
  exists_finish := ⟨s, ha, hf⟩
  unread := rfl
  error := Conversion.finish_eq_error hf
  completable := completable_iff.2 ⟨s, ha⟩

theorem FailsAtEnd.toPostfix_eq (h : FailsAtEnd ts r) : toPostfix ts = .error r := by
  obtain ⟨s, ha, hf⟩ := h.exists_finish
  obtain ⟨e, unread⟩ := r
  obtain rfl := h.unread
  have hc := convertFrom_of_after ha []
  rw [List.append_nil] at hc
  rw [toPostfix, hc, convertFrom_of_finish_error hf]

/-- A conversion fails as soon as the tokens that it has read cannot be continued to a query any
more, and not before. -/
structure RefusedAtOnce : Prop where
  toPostfix_append : ∀ before s us, Conversion.start.after before = .ok s →
    toPostfix (before ++ us) = convertFrom s us
  taken_iff : ∀ ts before, before <+: ts →
    ((∃ s, Conversion.start.after before = .ok s) ↔ Completable before)
  eq_error_iff : ∀ ts r, toPostfix ts = .error r ↔
    (∃ before t, FailsAt ts r before t) ∨ FailsAtEnd ts r

theorem refusedAtOnce : RefusedAtOnce := by
  constructor
  case toPostfix_append => exact fun before s us ha => convertFrom_of_after ha us
  case taken_iff => exact fun ts before _ => completable_iff.symm
  case eq_error_iff =>
    intro ts r
    constructor
    · intro h
      obtain ⟨e, unread⟩ := r
      obtain ⟨before, t, s, rfl, ha, hs⟩ | ⟨s, ha, hf, rfl⟩ := convertFrom_eq_error h
      · exact .inl ⟨before, t, failsAt_of_step_error ha hs unread⟩
      · exact .inr (failsAtEnd_of_finish_error ha hf)
    · rintro (⟨before, t, h⟩ | h)
      · rw [h.eq_append, h.same_error]
      · exact h.toPostfix_eq

example : toPostfix [.leftParen, .rightParen, .ident "a"] = .error ⟨.incomplete, [.ident "a"]⟩ :=
  rfl

end Retrieval.Query.Infixed
