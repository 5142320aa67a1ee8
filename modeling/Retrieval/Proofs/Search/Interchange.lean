import Retrieval.Proofs.Index.Accepted
import Retrieval.Proofs.Index.Reordered
import Retrieval.Proofs.Index.Score
import Retrieval.Proofs.Search.Results

namespace Retrieval.Search

open Index Query

variable {R : Type} {A : Arithmetic R} {ix ix' : Index} {docs docs' : List Document}
variable {g : Grammar} {query : String} {q : Compiled} {en en' : Enumeration}

def Finds (ix : Index) (hits : List (Hit R)) (path : String) : Prop :=
  ∃ hit ∈ hits, ix.filePath hit.docId = .ok path

def Matches (p : Terms.Preprocessor) (q : Compiled) (doc : Document) : Prop :=
  p.terms doc.text ≠ [] ∧ q.expr.Holds fun text => p.term text ∈ p.terms doc.text

def outcome (A : Arithmetic R) (ix : Index) (q : Compiled) (r : Ranking) (limit : Option Nat)
    (en : Enumeration) : Outcome R where
  totalHits := (allHits A ix q r en).length
  hits := match limit with
    | some k => (allHits A ix q r en).take k
    | none => allHits A ix q r en
  queryWords := q.relevantWords
  relevantTerms := relevantTerms ix q.relevantWords

theorem search_eq_error_iff {r : Ranking} {limit : Option Nat} {e : QueryError} :
    search A ix query g r limit en = .error e ↔ g.compile query = .error e := by
  rw [search, bind_eq_error_iff]
  constructor
  · rintro (h | ⟨q, _, h⟩)
    · exact h
    · cases h
  · exact .inl

theorem search_eq_ok_iff {r : Ranking} {limit : Option Nat} {o : Outcome R} :
    search A ix query g r limit en = .ok o ↔
      ∃ q, g.compile query = .ok q ∧ o = outcome A ix q r limit en := by
  rw [search, bind_eq_ok_iff]
  refine exists_congr fun q => and_congr_right fun _ => ?_
  constructor
  · rintro ⟨⟩
    rfl
  · rintro rfl
    rfl

open Classical in
theorem length_allHits_eq_countP (h : ix.Comprises docs) (hq : g.compile query = .ok q)
    (r : Ranking) :
    (allHits A ix q r en).length = docs.countP fun doc => Matches ix.preprocessor q doc := by
  have hn : ((allHits A ix q r en).map Hit.docId).Nodup := nodup_rank A ix _ _ r en
  rw [← List.length_map Hit.docId]
  exact length_eq_countP hn (fun _ => mem_allHits_of_records h.toRecords hq) h.length_lt

theorem finds_allHits_iff (h : ix.Comprises docs) (hq : g.compile query = .ok q) (r : Ranking)
    (path : String) : Finds ix (allHits A ix q r en) path ↔
      ∃ doc ∈ docs, doc.path = path ∧ Matches ix.preprocessor q doc := by
  constructor
  · rintro ⟨hit, hm, hp⟩
    have hd := List.mem_map_of_mem (f := Hit.docId) hm
    obtain ⟨doc, hdoc, hmatch⟩ := (mem_allHits_of_records h.toRecords hq).1 hd
    obtain ⟨doc', hdoc', hpath⟩ := h.filePath_eq_ok_iff.1 hp
    obtain rfl : doc = doc' := Option.some.inj (hdoc.symm.trans hdoc')
    exact ⟨doc, List.mem_of_getElem? hdoc, hpath, hmatch⟩
  · rintro ⟨doc, hm, hpath, hmatch⟩
    obtain ⟨i, hi, rfl⟩ := List.mem_iff_getElem.1 hm
    obtain ⟨d, rfl⟩ := h.exists_toNat_eq hi
    have hdoc : docs[d.toNat]? = some docs[d.toNat] := List.getElem?_eq_getElem hi
    have hd : d ∈ (allHits A ix q r en).map Hit.docId :=
      (mem_allHits_of_records h.toRecords hq).2 ⟨_, hdoc, hmatch⟩
    obtain ⟨hit, hhit, rfl⟩ := List.mem_map.1 hd
    exact ⟨hit, hhit, h.filePath_eq_ok_iff.2 ⟨_, hdoc, hpath⟩⟩

/-- Two indexes that cannot be told apart, but for the ids and with them the order of hits that have
the same score. -/
structure Interchangeable (ix ix' : Index) : Prop where
  stats_eq : ix.stats = ix'.stats
  search_eq_error_iff : ∀ {R : Type} (A : Arithmetic R) query g r limit en en' e,
    search A ix query g r limit en = .error e ↔ search A ix' query g r limit en' = .error e
  search_eq_ok : ∀ {R : Type} (A : Arithmetic R) query g r limit en en' o o',
    search A ix query g r limit en = .ok o → search A ix' query g r limit en' = .ok o' →
      o.totalHits = o'.totalHits ∧ o.queryWords = o'.queryWords ∧
        o.relevantTerms = o'.relevantTerms
  finds_iff : ∀ {R : Type} (A : Arithmetic R) query g r en en' o o',
    search A ix query g r none en = .ok o → search A ix' query g r none en' = .ok o' →
      ∀ path, Finds ix o.hits path ↔ Finds ix' o'.hits path
  exists_filePath_iff : ∀ path, (∃ d, ix.filePath d = .ok path) ↔ ∃ d, ix'.filePath d = .ok path
  filePath_inj : ∀ d d' path, ix.filePath d = .ok path → ix.filePath d' = .ok path → d = d'
  filePath_inj' : ∀ d d' path, ix'.filePath d = .ok path → ix'.filePath d' = .ok path → d = d'
  documentFrequency_eq : ∀ term, ix.documentFrequency term = ix'.documentFrequency term
  size_bags_eq : ix.bags.size = ix'.bags.size
  occurrences_eq : ∀ d d' path, ix.filePath d = .ok path → ix'.filePath d' = .ok path →
    ∀ term, ix.occurrences d term = ix'.occurrences d' term
  /-- With any arithmetic, documents at the same path have the same scores if these are added up in
  the same order. -/
  scores_eq : ∀ {R : Type} (A : Arithmetic R) d d' path, ix.filePath d = .ok path →
    ix'.filePath d' = .ok path → ∀ terms o,
      ix.additiveScore A d terms o = ix'.additiveScore A d' terms o ∧
        ix.cosineScore A d terms o = ix'.cosineScore A d' terms o
  /-- Without rounding they have the same scores in whatever order these are added up. -/
  exact_scores_eq : ∀ {R : Type} [Field R] [LinearOrder R] (A : Arithmetic R), A.Exact →
    ∀ d d' path, ix.filePath d = .ok path → ix'.filePath d' = .ok path → ∀ terms o o',
      ix.additiveScore A d terms o = ix'.additiveScore A d' terms o' ∧
        ix.cosineScore A d terms o = ix'.cosineScore A d' terms o'

section Reordered

variable (h : ix.Comprises docs) (h' : ix'.Comprises docs') (hp : docs.Perm docs')
  (he : ix.preprocessor = ix'.preprocessor)

include h h' hp he

theorem outcome_eq_of_perm (hq : g.compile query = .ok q) (r : Ranking) (limit : Option Nat) :
    (outcome A ix q r limit en).totalHits = (outcome A ix' q r limit en').totalHits ∧
      (outcome A ix q r limit en).queryWords = (outcome A ix' q r limit en').queryWords ∧
      (outcome A ix q r limit en).relevantTerms = (outcome A ix' q r limit en').relevantTerms := by
  classical
  have hl : (allHits A ix q r en).length = (allHits A ix' q r en').length := by
    rw [length_allHits_eq_countP h hq, length_allHits_eq_countP h' hq, he, hp.countP_eq]
  have ht : relevantTerms ix q.relevantWords = relevantTerms ix' q.relevantWords := by
    rw [relevantTerms, relevantTerms, he]
  exact ⟨hl, rfl, ht⟩

theorem finds_iff_of_perm (hq : g.compile query = .ok q) (r : Ranking) (path : String) :
    Finds ix (allHits A ix q r en) path ↔ Finds ix' (allHits A ix' q r en') path := by
  rw [finds_allHits_iff h hq, finds_allHits_iff h' hq, he]
  simp only [hp.mem_iff]

theorem interchangeable_of_perm : Interchangeable ix ix' := by
  have hr : Reordered ix ix' := .of_perm h h' hp he
  constructor
  case stats_eq => exact hr.stats_eq
  case search_eq_error_iff =>
    intro R A query g r limit en en' e
    rw [Search.search_eq_error_iff, Search.search_eq_error_iff]
  case search_eq_ok =>
    intro R A query g r limit en en' o o' ho ho'
    obtain ⟨q, hq, rfl⟩ := search_eq_ok_iff.1 ho
    obtain ⟨q', hq', rfl⟩ := search_eq_ok_iff.1 ho'
    obtain rfl : q = q' := Except.ok.inj (hq.symm.trans hq')
    exact outcome_eq_of_perm h h' hp he hq r limit
  case finds_iff =>
    intro R A query g r en en' o o' ho ho' path
    obtain ⟨q, hq, rfl⟩ := search_eq_ok_iff.1 ho
    obtain ⟨q', hq', rfl⟩ := search_eq_ok_iff.1 ho'
    obtain rfl : q = q' := Except.ok.inj (hq.symm.trans hq')
    exact finds_iff_of_perm h h' hp he hq r path
  case exists_filePath_iff => exact hr.exists_filePath_iff
  case filePath_inj => exact fun _ _ _ => h.filePath_inj
  case filePath_inj' => exact fun _ _ _ => h'.filePath_inj
  case documentFrequency_eq => exact hr.documentFrequency_eq
  case size_bags_eq => exact hr.size_bags_eq
  case occurrences_eq => exact fun _ _ _ hd hd' => hr.occurrences_eq hd hd'
  case scores_eq =>
    intro R A d d' path hd hd' terms o
    exact ⟨hr.additiveScore_eq hd hd' A terms o, hr.cosineScore_eq hd hd' A terms o⟩
  case exact_scores_eq =>
    intro R _ _ A hA d d' path hd hd' terms o o'
    rw [hr.additiveScore_eq hd hd' A terms o, hr.cosineScore_eq hd hd' A terms o]
    exact ⟨hA.additiveScore_eq_of_orders d' terms o o', hA.cosineScore_eq_of_orders d' terms o o'⟩

end Reordered

theorem comprises_addTexts (p : Terms.Preprocessor) (hn : (docs.map Document.path).Nodup)
    (hl : docs.length ≤ DocId.last.toNat) : ((empty p).addTexts docs).1.Comprises docs := by
  have hc := (comprises_empty p).addTexts docs
  rwa [(comprises_empty p).snd_addTexts_eq_self hn hl] at hc

/-- The order in which texts at different paths are indexed makes no difference to what is found or
to how it is scored. -/
theorem addTexts_interchangeable (p : Terms.Preprocessor) {docs docs' : List Document}
    (hp : docs.Perm docs') (hn : (docs.map Document.path).Nodup)
    (hl : docs.length ≤ DocId.last.toNat) :
    Interchangeable ((Index.empty p).addTexts docs).1 ((Index.empty p).addTexts docs').1 ∧
      ∀ doc ∈ docs, ∃ d, ((Index.empty p).addTexts docs).1.filePath d = .ok doc.path := by
  have hn' : (docs'.map Document.path).Nodup := (hp.map Document.path).nodup_iff.1 hn
  have hl' : docs'.length ≤ DocId.last.toNat := hp.length_eq ▸ hl
  have h := comprises_addTexts p hn hl
  have h' := comprises_addTexts p hn' hl'
  have he : ((Index.empty p).addTexts docs).1.preprocessor =
      ((Index.empty p).addTexts docs').1.preprocessor := by
    rw [preprocessor_addTexts, preprocessor_addTexts]
  refine ⟨interchangeable_of_perm h h' hp he, fun doc hd => ?_⟩
  exact h.exists_filePath_iff.2 (List.mem_map_of_mem hd)

def threeTexts : List Document :=
  [⟨"cat dog cat", "a"⟩, ⟨"the", "b"⟩, ⟨"dog", "c"⟩]

theorem interchangeable_of_reversed :
    let p := Terms.Preprocessor.english .english Terms.EnglishStemmer.stem
    threeTexts.Perm threeTexts.reverse ∧ (threeTexts.map Document.path).Nodup ∧
      threeTexts.length ≤ DocId.last.toNat ∧
      Interchangeable ((Index.empty p).addTexts threeTexts).1
        ((Index.empty p).addTexts threeTexts.reverse).1 := by
  intro p
  have hp : threeTexts.Perm threeTexts.reverse := (List.reverse_perm _).symm
  have hn : (threeTexts.map Document.path).Nodup := by decide
  have hl : threeTexts.length ≤ DocId.last.toNat := by decide
  exact ⟨hp, hn, hl, (addTexts_interchangeable p hp hn hl).1⟩

end Retrieval.Search
