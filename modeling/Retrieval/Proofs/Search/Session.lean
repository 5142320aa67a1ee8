import Mathlib.Data.List.Induction
import Retrieval.Proofs.Search.Interchange

namespace Retrieval.Query.Session

open Index Search

inductive Call
  | isValid (query : String)
  | search (ix : Index) (query : String)

def Call.Succeeds (g : Grammar) : Call → Prop
  | .isValid _ => False
  | .search _ query => ∃ q, g.compile query = .ok q

def Call.perform (s : Session) : Call → Session
  | .isValid query => (s.isValid query).2
  | .search ix query => (s.search ix query).2

def run (s : Session) (calls : List Call) : Session :=
  calls.foldl Call.perform s

variable {s : Session} {g : Grammar} {query : String} {q : Compiled} {e : QueryError} {c : Call}

section Step

theorem isValid_of_ok (h : s.grammar.compile query = .ok q) :
    s.isValid query = (true, ⟨s.grammar, none, s.relevantWords⟩) := by
  simp [isValid, compile, h, Except.isOk, Except.toBool]

theorem isValid_of_error (h : s.grammar.compile query = .error e) :
    s.isValid query = (false, ⟨s.grammar, some e, s.relevantWords⟩) := by
  simp [isValid, compile, h, Except.isOk, Except.toBool]

theorem search_of_ok (h : s.grammar.compile query = .ok q) (ix : Index) :
    s.search ix query = (.ok (q.evaluate ix), ⟨s.grammar, none, q.relevantWords⟩) := by
  simp [Session.search, compile, h]

theorem search_of_error (h : s.grammar.compile query = .error e) (ix : Index) :
    s.search ix query = (.error e, ⟨s.grammar, some e, s.relevantWords⟩) := by
  simp [Session.search, compile, h]

theorem fst_search (s : Session) (ix : Index) (query : String) :
    (s.search ix query).1 = (s.grammar.compile query).map fun q => q.evaluate ix := by
  cases h : s.grammar.compile query with
  | error e => rw [search_of_error h, Except.map]
  | ok q => rw [search_of_ok h, Except.map]

theorem fst_isValid_iff : (s.isValid query).1 = true ↔ ∃ q, s.grammar.compile query = .ok q := by
  cases h : s.grammar.compile query with
  | error e => simp [isValid_of_error h]
  | ok q => simp [isValid_of_ok h]

theorem errorMessage_search {ix : Index} {m : String} :
    (s.search ix query).2.errorMessage = some m ↔
      ∃ e, (s.search ix query).1 = .error e ∧ e.message = m := by
  cases h : s.grammar.compile query with
  | error e => simp [search_of_error h, errorMessage]
  | ok q => simp [search_of_ok h, errorMessage]

theorem errorMessage_isValid {m : String} : (s.isValid query).2.errorMessage = some m ↔
    (s.isValid query).1 = false ∧ ∃ e, s.grammar.compile query = .error e ∧ e.message = m := by
  cases h : s.grammar.compile query with
  | error e => simp [isValid_of_error h, errorMessage]
  | ok q => simp [isValid_of_ok h, errorMessage]

theorem relevantWords_isValid (s : Session) (query : String) :
    (s.isValid query).2.relevantWords = s.relevantWords := by
  cases h : s.grammar.compile query with
  | error e => rw [isValid_of_error h]
  | ok q => rw [isValid_of_ok h]

theorem relevantWords_search {ix : Index} (h : (s.search ix query).1 = .error e) :
    (s.search ix query).2.relevantWords = s.relevantWords := by
  cases hq : s.grammar.compile query with
  | error e => rw [search_of_error hq]
  | ok q =>
    rw [search_of_ok hq] at h
    cases h

theorem grammar_perform (s : Session) (c : Call) : (c.perform s).grammar = s.grammar := by
  cases c with
  | isValid query =>
    cases h : s.grammar.compile query with
    | error e => rw [Call.perform, isValid_of_error h]
    | ok q => rw [Call.perform, isValid_of_ok h]
  | search ix query =>
    cases h : s.grammar.compile query with
    | error e => rw [Call.perform, search_of_error h]
    | ok q => rw [Call.perform, search_of_ok h]

theorem relevantWords_perform (h : ¬c.Succeeds s.grammar) :
    (c.perform s).relevantWords = s.relevantWords := by
  cases c with
  | isValid query => exact relevantWords_isValid s query
  | search ix query =>
    cases hq : s.grammar.compile query with
    | error e => rw [Call.perform, search_of_error hq]
    | ok q => exact absurd ⟨q, hq⟩ h

end Step

section Run

theorem run_append_singleton (s : Session) (calls : List Call) (c : Call) :
    s.run (calls ++ [c]) = c.perform (s.run calls) := by
  simp [run]

theorem grammar_run (s : Session) (calls : List Call) : (s.run calls).grammar = s.grammar := by
  induction calls using List.reverseRecOn with
  | nil => rfl
  | append_singleton calls c ih => rw [run_append_singleton, grammar_perform, ih]

theorem relevantWords_run (g : Grammar) (calls : List Call) :
    ((∀ c ∈ calls, ¬c.Succeeds g) ∧ ((start g).run calls).relevantWords = ∅) ∨
      ∃ before ix query after q, calls = before ++ .search ix query :: after ∧
        (∀ c ∈ after, ¬c.Succeeds g) ∧ g.compile query = .ok q ∧
        ((start g).run calls).relevantWords = q.relevantWords := by
  induction calls using List.reverseRecOn with
  | nil => exact .inl ⟨by simp, rfl⟩
  | append_singleton calls c ih =>
    have hg : ((start g).run calls).grammar = g := grammar_run (start g) calls
    rw [run_append_singleton]
    by_cases hc : c.Succeeds g
    · cases c with
      | isValid query => exact hc.elim
      | search ix query =>
        obtain ⟨q, hq⟩ := hc
        have hs := search_of_ok (hg ▸ hq) ix
        exact .inr ⟨calls, ix, query, [], q, rfl, by simp, hq, by rw [Call.perform, hs]⟩
    · have hk : ¬c.Succeeds ((start g).run calls).grammar := by rwa [hg]
      rw [relevantWords_perform hk]
      obtain ⟨hn, hw⟩ | ⟨before, ix, query, after, q, rfl, hn, hq, hw⟩ := ih
      · left
        refine ⟨?_, hw⟩
        simpa [or_imp, forall_and] using ⟨hn, hc⟩
      · right
        refine ⟨before, ix, query, after ++ [c], q, by simp, ?_, hq, hw⟩
        simpa [or_imp, forall_and] using ⟨hn, hc⟩

end Run

/-- What a session answers after some calls does not depend on them. It remembers the error of the
last call, and the words of the last search that had none. -/
structure Independent (g : Grammar) (calls : List Call) : Prop where
  search_eq : ∀ ix query, (((start g).run calls).search ix query).1 =
    (g.compile query).map fun q => q.evaluate ix
  isValid_iff : ∀ query, (((start g).run calls).isValid query).1 = true ↔
    ∃ q, g.compile query = .ok q
  search_eq_error_iff : ∀ {R : Type} (A : Arithmetic R) ix query r limit en e,
    (((start g).run calls).search ix query).1 = .error e ↔
      Search.search A ix query g r limit en = .error e
  perm_of_search : ∀ {R : Type} (A : Arithmetic R) ix query r en docs,
    (((start g).run calls).search ix query).1 = .ok docs →
      ∃ o, Search.search A ix query g r none en = .ok o ∧ (o.hits.map Hit.docId).Perm docs.toList
  errorMessage_search : ∀ ix query m,
    (((start g).run calls).search ix query).2.errorMessage = some m ↔
      ∃ e, (((start g).run calls).search ix query).1 = .error e ∧ e.message = m
  errorMessage_isValid : ∀ query m,
    (((start g).run calls).isValid query).2.errorMessage = some m ↔
      (((start g).run calls).isValid query).1 = false ∧
        ∃ e, g.compile query = .error e ∧ e.message = m
  relevantWords_eq :
    ((∀ c ∈ calls, ¬c.Succeeds g) ∧ ((start g).run calls).relevantWords = ∅) ∨
      ∃ before ix query after, calls = before ++ .search ix query :: after ∧
        (∀ c ∈ after, ¬c.Succeeds g) ∧
        ∀ {R : Type} (A : Arithmetic R) r limit en, ∃ o,
          Search.search A ix query g r limit en = .ok o ∧
            ((start g).run calls).relevantWords = o.queryWords
  relevantWords_isValid : ∀ query, (((start g).run calls).isValid query).2.relevantWords =
    ((start g).run calls).relevantWords
  relevantWords_of_error : ∀ ix query e, (((start g).run calls).search ix query).1 = .error e →
    (((start g).run calls).search ix query).2.relevantWords = ((start g).run calls).relevantWords

theorem independent (g : Grammar) (calls : List Call) : Independent g calls := by
  have hg : ((start g).run calls).grammar = g := grammar_run (start g) calls
  have hs : ∀ ix query, (((start g).run calls).search ix query).1 =
      (g.compile query).map fun q => q.evaluate ix := by
    intro ix query
    rw [fst_search, hg]
  constructor
  case search_eq => exact hs
  case isValid_iff =>
    intro query
    rw [fst_isValid_iff, hg]
  case search_eq_error_iff =>
    intro R A ix query r limit en e
    rw [hs, Search.search_eq_error_iff]
    cases g.compile query <;> simp [Except.map]
  case perm_of_search =>
    intro R A ix query r en docs h
    rw [hs] at h
    cases hq : g.compile query with
    | error e =>
      rw [hq] at h
      cases h
    | ok q =>
      rw [hq] at h
      cases h
      refine ⟨outcome A ix q r none en, search_eq_ok_iff.2 ⟨q, hq, rfl⟩, ?_⟩
      exact map_docId_rank_perm A ix _ _ r en
  case errorMessage_search => exact fun ix query m => errorMessage_search
  case errorMessage_isValid =>
    intro query m
    rw [errorMessage_isValid, hg]
  case relevantWords_eq =>
    obtain hn | ⟨before, ix, query, after, q, he, hn, hq, hw⟩ := relevantWords_run g calls
    · exact .inl hn
    · refine .inr ⟨before, ix, query, after, he, hn, fun A r limit en => ?_⟩
      exact ⟨outcome A ix q r limit en, search_eq_ok_iff.2 ⟨q, hq, rfl⟩, hw⟩
  case relevantWords_isValid => exact fun query => relevantWords_isValid _ query
  case relevantWords_of_error => exact fun ix query e h => relevantWords_search h

end Retrieval.Query.Session
