import Retrieval.Search.Basic
import Retrieval.Proofs.Index.History
import Retrieval.Proofs.Query.Compiled
import Retrieval.Proofs.Query.Truth

namespace Retrieval.Search

open Index Query

variable {R : Type} (A : Arithmetic R) (ix : Index)

theorem map_docId_rank_perm (docs : DocList) (terms : WordSet) (r : Ranking) (en : Enumeration) :
    ((rank A ix docs terms r en).map Hit.docId).Perm docs.toList := by
  have hp := (List.mergeSort_perm (docs.toList.map fun d => (⟨d, r.score A ix terms en d⟩ : Hit R))
    fun a b => !A.lt a.score b.score).map Hit.docId
  have hm : (docs.toList.map fun d => (⟨d, r.score A ix terms en d⟩ : Hit R)).map Hit.docId =
      docs.toList := by
    rw [List.map_map]
    exact List.map_id _
  rwa [hm] at hp

theorem nodup_rank (docs : DocList) (terms : WordSet) (r : Ranking) (en : Enumeration) :
    ((rank A ix docs terms r en).map Hit.docId).Nodup :=
  (map_docId_rank_perm A ix docs terms r en).nodup_iff.2 docs.nodup_toList

theorem mem_rank {docs : DocList} {terms : WordSet} {r : Ranking} {en : Enumeration} {d : DocId} :
    d ∈ (rank A ix docs terms r en).map Hit.docId ↔ d ∈ docs := by
  rw [(map_docId_rank_perm A ix docs terms r en).mem_iff]
  exact DocList.mem_toList

theorem search_of_compile_error {query : String} {g : Grammar} {e : QueryError}
    (h : g.compile query = .error e) (r : Ranking) (limit : Option Nat) (en : Enumeration) :
    search A ix query g r limit en = .error e := by
  rw [search, h]
  rfl

def allHits (q : Compiled) (r : Ranking) (en : Enumeration) : List (Hit R) :=
  rank A ix (q.evaluate ix) (relevantTerms ix q.relevantWords) r en

theorem search_of_compile_ok {query : String} {g : Grammar} {q : Compiled}
    (h : g.compile query = .ok q) (r : Ranking) (en : Enumeration) :
    ∃ o, search A ix query g r none en = .ok o ∧ o.hits = allHits A ix q r en ∧
      o.totalHits = o.hits.length := by
  rw [search, h]
  exact ⟨_, rfl, rfl, rfl⟩

theorem search_eq_ok {query : String} {g : Grammar} {r : Ranking} {limit : Option Nat}
    {en : Enumeration} {o : Outcome R} (h : search A ix query g r limit en = .ok o) :
    ∃ q, g.compile query = .ok q ∧ o.hits ⊆ allHits A ix q r en := by
  rw [search] at h
  obtain ⟨q, hq, ho⟩ := bind_eq_ok_iff.1 h
  refine ⟨q, hq, ?_⟩
  cases ho
  cases limit with
  | none => exact List.Subset.refl _
  | some k => exact List.take_subset _ _

variable {A ix}

theorem mem_allHits_iff (hc : ix.Consistent) {g : Grammar} {query : String} {q : Compiled}
    (hq : g.compile query = .ok q) {r : Ranking} {en : Enumeration} {d : DocId} :
    d ∈ (allHits A ix q r en).map Hit.docId ↔ d ∈ ix.allDocuments ∧
      q.expr.Holds fun text => d ∈ ix.documents (ix.preprocessor.term text) := by
  rw [allHits, mem_rank]
  exact Expr.mem_evaluate hc d q.expr (Grammar.proper_of_compile hq)

theorem mem_allHits_of_records {docs : List Document} (h : ix.Records docs) {g : Grammar}
    {query : String} {q : Compiled} (hq : g.compile query = .ok q) {r : Ranking} {en : Enumeration}
    {d : DocId} : d ∈ (allHits A ix q r en).map Hit.docId ↔
      ∃ doc, docs[d.toNat]? = some doc ∧ ix.preprocessor.terms doc.text ≠ [] ∧
        q.expr.Holds fun text =>
          ix.preprocessor.term text ∈ ix.preprocessor.terms doc.text := by
  rw [mem_allHits_iff h.consistent hq, h.mem_allDocuments_iff]
  simp only [h.mem_documents_iff]
  constructor
  · rintro ⟨⟨doc, hd, hn⟩, hh⟩
    refine ⟨doc, hd, hn, ?_⟩
    simpa [hd] using hh
  · rintro ⟨doc, hd, hn, hh⟩
    refine ⟨⟨doc, hd, hn⟩, ?_⟩
    simpa [hd] using hh

theorem hasPath_of_mem_hits (hc : ix.Consistent) {query : String} {g : Grammar} {r : Ranking}
    {limit : Option Nat} {en : Enumeration} {o : Outcome R}
    (h : search A ix query g r limit en = .ok o) {hit : Hit R} (hh : hit ∈ o.hits) : ∃ path, ix.filePath hit.docId = .ok path := by
  obtain ⟨q, hq, hs⟩ := search_eq_ok A ix h
  have hm := List.mem_map_of_mem (f := Hit.docId) (hs hh)
  obtain ⟨ha, _⟩ := (mem_allHits_iff hc hq).1 hm
  exact hc.hasPath hit.docId (mem_allDocuments.1 ha)

/-- A search in an index of some texts finds, once each, those that have terms and that the query is
true of. It fails only as the query does. -/
theorem search_addTexts (A : Arithmetic R) (p : Terms.Preprocessor) (docs : List Document)
    (g : Grammar) (query : String) (r : Ranking) (en : Enumeration) :
    match g.compile query with
    | .error e => search A ((Index.empty p).addTexts docs).1 query g r none en = .error e
    | .ok q => ∃ o, search A ((Index.empty p).addTexts docs).1 query g r none en = .ok o ∧
      (o.hits.map Hit.docId).Nodup ∧
      (∀ d, d ∈ o.hits.map Hit.docId ↔
        ∃ doc, ((Index.empty p).addTexts docs).2[d.toNat]? = some doc ∧ p.terms doc.text ≠ [] ∧
          q.expr.Holds fun text => p.term text ∈ p.terms doc.text) ∧
      o.totalHits = o.hits.length := by
  have hr := (records_empty p).addTexts docs
  have hp := preprocessor_addTexts (Index.empty p) docs
  rw [List.nil_append] at hr
  cases hq : g.compile query with
  | error e => exact search_of_compile_error A _ hq r none en
  | ok q =>
    obtain ⟨o, hs, hh, ht⟩ := search_of_compile_ok A ((Index.empty p).addTexts docs).1 hq r en
    refine ⟨o, hs, ?_, fun d => ?_, ht⟩
    · rw [hh]
      exact nodup_rank A _ _ _ r en
    · rw [hh, mem_allHits_of_records hr hq, hp]
      rfl

/-- Whatever has been counted in an index in whatever order, its parts agree, so that each hit has a
path. -/
theorem consistent_and_hits_have_paths (A : Arithmetic R) (p : Terms.Preprocessor)
    (cs : List Change) :
    ((Index.empty p).run cs).Consistent ∧
      ∀ query g r limit en o, search A ((Index.empty p).run cs) query g r limit en = .ok o →
        ∀ hit ∈ o.hits, ∃ path, ((Index.empty p).run cs).filePath hit.docId = .ok path ∧
          ∀ fallback, (((Index.empty p).run cs).filePath hit.docId).toOption.getD fallback =
            path := by
  have hc := (consistent_empty p).run cs
  refine ⟨hc, fun query g r limit en o hs hit hh => ?_⟩
  obtain ⟨path, hp⟩ := hasPath_of_mem_hits hc hs hh
  refine ⟨path, hp, fun fallback => ?_⟩
  rw [hp]
  rfl

end Retrieval.Search
