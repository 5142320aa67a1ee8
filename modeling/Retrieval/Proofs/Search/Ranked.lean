import Mathlib.Analysis.SpecialFunctions.Log.Basic
import Retrieval.Proofs.Search.Interchange

namespace Retrieval.Search

open Index Query

section Sorting

variable {α : Type} {le : α → α → Bool} {S : α → α → Prop} {l : List α}

section Total

variable (trans : ∀ a b c, le a b = true → le b c = true → le a c = true)
variable (total : ∀ a b, (le a b || le b a) = true)

include trans total

theorem filter_mergeSort {p : α → Bool} (h : (l.filter p).Pairwise fun a b => le a b = true) :
    (l.mergeSort le).filter p = l.filter p := by
  have hs := (List.sublist_mergeSort trans total h List.filter_sublist).filter p
  rw [List.filter_filter, List.filter_congr fun _ _ => Bool.and_self _] at hs
  exact (hs.eq_of_length ((List.mergeSort_perm l le).filter p).length_eq.symm).symm

/-- A sort is stable: what held of the elements in their order still holds of equal ones. -/
theorem pairwise_mergeSort_of_pairwise (h : l.Pairwise S) :
    (l.mergeSort le).Pairwise fun a b => le a b = true ∧ (le b a = true → S a b) := by
  rw [List.pairwise_iff_forall_sublist]
  intro a b hab
  have hle := List.pairwise_iff_forall_sublist.1 (List.pairwise_mergeSort trans total l) hab
  refine ⟨hle, fun hge => ?_⟩
  -- The elements equal to `a` are in order anyhow, so they are the same list after as before.
  let p : α → Bool := fun x => le a x && le x a
  have hp : (l.filter p).Pairwise fun x y => le x y = true := by
    refine List.pairwise_of_forall_mem_list fun x hx y hy => ?_
    have hxa := (Bool.and_eq_true _ _ ▸ (List.mem_filter.1 hx).2).2
    have hay := (Bool.and_eq_true _ _ ▸ (List.mem_filter.1 hy).2).1
    exact trans x a y hxa hay
  have haa : le a a = true := by simpa using total a a
  have hf := hab.filter p
  rw [filter_mergeSort trans total hp] at hf
  have hl : [a, b].filter p = [a, b] := by simp [p, haa, hle, hge]
  rw [hl] at hf
  exact List.pairwise_iff_forall_sublist.1 h (hf.trans List.filter_sublist)

end Total

theorem pairwise_mergeSort_of_mem
    (trans : ∀ a ∈ l, ∀ b ∈ l, ∀ c ∈ l, le a b = true → le b c = true → le a c = true)
    (total : ∀ a ∈ l, ∀ b ∈ l, (le a b || le b a) = true) (h : l.Pairwise S) :
    (l.mergeSort le).Pairwise fun a b => le a b = true ∧ (le b a = true → S a b) := by
  have hm : (l.attach.mergeSort fun a b => le a b).map Subtype.val = l.mergeSort le := by
    rw [List.map_mergeSort (f := Subtype.val) fun _ _ _ _ => rfl, List.attach_map_subtype_val]
  rw [← List.attach_map_subtype_val l, List.pairwise_map] at h
  rw [← hm, List.pairwise_map]
  exact pairwise_mergeSort_of_pairwise (fun a b c => trans a a.2 b b.2 c c.2)
    (fun a b => total a a.2 b b.2) h

end Sorting

/-- Whether comparison orders some numbers by size, as it does unless one of them is no number. -/
structure Comparable {R : Type} (A : Arithmetic R) (xs : List R) : Prop where
  asymm : ∀ x ∈ xs, ∀ y ∈ xs, A.lt x y = true → A.lt y x = false
  lt_or_lt : ∀ x ∈ xs, ∀ y ∈ xs, ∀ z ∈ xs, A.lt x z = true → A.lt x y = true ∨ A.lt y z = true

/-- Whether a hit comes before another: by descending score, and among equal ones by ascending
id. -/
structure Hit.Precedes {R : Type} (A : Arithmetic R) (a b : Hit R) : Prop where
  not_lt : A.lt a.score b.score = false
  docId_lt : A.lt b.score a.score = false → a.docId < b.docId

variable {R : Type} {A : Arithmetic R}

section Comparison

variable {xs : List R} (h : Comparable A xs)

include h

theorem Comparable.not_lt_or_not_lt {x y : R} (hx : x ∈ xs) (hy : y ∈ xs) :
    A.lt x y = false ∨ A.lt y x = false := by
  cases hl : A.lt x y with
  | false => exact .inl rfl
  | true => exact .inr (h.asymm x hx y hy hl)

theorem Comparable.irrefl {x : R} (hx : x ∈ xs) : A.lt x x = false :=
  (h.not_lt_or_not_lt hx hx).elim id id

theorem Comparable.not_lt_trans {x y z : R} (hx : x ∈ xs) (hy : y ∈ xs) (hz : z ∈ xs)
    (hxy : A.lt x y = false) (hyz : A.lt y z = false) : A.lt x z = false := by
  rw [← Bool.not_eq_true] at *
  exact fun hl => (h.lt_or_lt x hx y hy z hz hl).elim hxy hyz

end Comparison

theorem comparable_of_lt_iff {K : Type} [LinearOrder K] {xs : List R} (value : R → K)
    (h : ∀ x ∈ xs, ∀ y ∈ xs, A.lt x y = true ↔ value x < value y) : Comparable A xs where
  asymm x hx y hy hxy := by
    rw [← Bool.not_eq_true, h y hy x hx]
    exact ((h x hx y hy).1 hxy).asymm
  lt_or_lt x hx y hy z hz hxz := by
    have hv := (h x hx z hz).1 hxz
    rw [h x hx y hy, h y hy z hz]
    exact (lt_or_ge (value x) (value y)).imp_right fun hge => hge.trans_lt hv

section Rank

variable {ix : Index} {docs : DocList} {terms : WordSet} {r : Ranking} {en en' : Enumeration}

theorem eq_of_mem_rank {hit : Hit R} (h : hit ∈ rank A ix docs terms r en) :
    hit = ⟨hit.docId, r.score A ix terms en hit.docId⟩ := by
  obtain ⟨d, _, rfl⟩ := List.mem_map.1 (List.mem_mergeSort.1 h)
  rfl

theorem score_eq_zero (h : r = .none ∨ terms.isEmpty = true) (en : Enumeration) (d : DocId) :
    r.score A ix terms en d = A.ofNat 0 := by
  rcases h with rfl | h
  · exact ite_self _
  · exact if_pos h

/-- Whether some documents have the same scores in two searches, although these need not go through
the terms in the same order. -/
def SameScores (A : Arithmetic R) (ix : Index) (docs : DocList) (terms : WordSet) (r : Ranking)
    (en en' : Enumeration) : Prop :=
  ∀ d ∈ docs, r.score A ix terms en d = r.score A ix terms en' d

theorem SameScores.refl (A : Arithmetic R) (ix : Index) (docs : DocList) (terms : WordSet)
    (r : Ranking) (en : Enumeration) : SameScores A ix docs terms r en en :=
  fun _ _ => rfl

theorem sameScores_of_eq_zero (h : r = .none ∨ terms.isEmpty = true) :
    SameScores A ix docs terms r en en' := by
  intro d _
  rw [score_eq_zero h, score_eq_zero h]

theorem sameScores_of_exact [Field R] [LinearOrder R] (hA : A.Exact) :
    SameScores A ix docs terms r en en' := by
  intro d _
  cases r with
  | none => rfl
  | additive => rw [Ranking.score, Ranking.score, hA.additiveScore_eq_of_orders]
  | cosine => rw [Ranking.score, Ranking.score, hA.cosineScore_eq_of_orders]

theorem SameScores.rank_eq (h : SameScores A ix docs terms r en en') :
    rank A ix docs terms r en = rank A ix docs terms r en' := by
  have hm : (docs.toList.map fun d => (⟨d, r.score A ix terms en d⟩ : Hit R)) =
      docs.toList.map fun d => ⟨d, r.score A ix terms en' d⟩ :=
    List.map_congr_left fun d hd => by rw [h d (DocList.mem_toList.1 hd)]
  rw [rank, hm, rank]

variable (hc : Comparable A (docs.toList.map (r.score A ix terms en)))

include hc

/-- The documents enter the sort by ascending id, which is what those with equal scores keep. -/
theorem pairwise_rank : (rank A ix docs terms r en).Pairwise (Hit.Precedes A) := by
  have hs : ∀ hit ∈ docs.toList.map fun d => (⟨d, r.score A ix terms en d⟩ : Hit R),
      hit.score ∈ docs.toList.map (r.score A ix terms en) := by
    intro hit hm
    obtain ⟨d, hd, rfl⟩ := List.mem_map.1 hm
    exact List.mem_map_of_mem hd
  have hi : (docs.toList.map fun d => (⟨d, r.score A ix terms en d⟩ : Hit R)).Pairwise
      fun a b => a.docId < b.docId := List.pairwise_map.2 docs.ascending
  refine (pairwise_mergeSort_of_mem ?trans ?total hi).imp ?precedes
  case trans =>
    simp only [Bool.not_eq_true']
    exact fun a ha b hb c hd => hc.not_lt_trans (hs a ha) (hs b hb) (hs c hd)
  case total =>
    simp only [Bool.or_eq_true, Bool.not_eq_true']
    exact fun a ha b hb => hc.not_lt_or_not_lt (hs a ha) (hs b hb)
  case precedes =>
    simp only [Bool.not_eq_true']
    exact fun ⟨hn, hd⟩ => ⟨hn, hd⟩

theorem rank_eq_map_of_score_eq_zero (h : r = .none ∨ terms.isEmpty = true) :
    rank A ix docs terms r en = docs.toList.map fun d => ⟨d, A.ofNat 0⟩ := by
  have hz : r.score A ix terms en = fun _ => A.ofNat 0 := funext (score_eq_zero h en)
  rw [hz] at hc
  rw [rank, hz]
  refine List.mergeSort_of_pairwise (List.pairwise_map.2 ?_)
  refine docs.ascending.imp_of_mem fun hd _ _ => ?_
  rw [hc.irrefl (List.mem_map_of_mem hd)]
  rfl

end Rank

/-- Whether some hits are all of some documents, each with its own score, in order. -/
structure Ranked (A : Arithmetic R) (ix : Index) (docs : DocList) (terms : WordSet) (r : Ranking)
    (en : Enumeration) (hits : List (Hit R)) : Prop where
  perm : (hits.map Hit.docId).Perm docs.toList
  score_eq : ∀ hit ∈ hits, hit.score = r.score A ix terms en hit.docId
  pairwise : hits.Pairwise (Hit.Precedes A)
  /-- With nothing to rank by the order is that of the ids. -/
  eq_map : r = .none ∨ terms.isEmpty = true →
    hits = docs.toList.map fun d => ⟨d, A.ofNat 0⟩

section Ranked

variable {ix : Index} {docs : DocList} {terms : WordSet} {r : Ranking} {en : Enumeration}
variable {hits hits' : List (Hit R)}

theorem ranked_rank (hc : Comparable A (docs.toList.map (r.score A ix terms en))) :
    Ranked A ix docs terms r en (rank A ix docs terms r en) where
  perm := map_docId_rank_perm A ix docs terms r en
  score_eq _ hm := congrArg Hit.score (eq_of_mem_rank hm)
  pairwise := pairwise_rank hc
  eq_map := rank_eq_map_of_score_eq_zero hc

namespace Ranked

theorem map_docId_map_score (h : Ranked A ix docs terms r en hits) :
    (hits.map Hit.docId).map (fun d => (⟨d, r.score A ix terms en d⟩ : Hit R)) = hits := by
  rw [List.map_map]
  refine (List.map_congr_left fun hit hm => ?_).trans (List.map_id hits)
  rw [Function.comp_apply, ← h.score_eq hit hm]
  rfl

theorem unique (h : Ranked A ix docs terms r en hits) (h' : Ranked A ix docs terms r en hits') :
    hits = hits' := by
  have hp := (h.perm.trans h'.perm.symm).map fun d => (⟨d, r.score A ix terms en d⟩ : Hit R)
  rw [h.map_docId_map_score, h'.map_docId_map_score] at hp
  refine hp.eq_of_pairwise (fun a b _ _ hab hba => ?_) h.pairwise h'.pairwise
  exact absurd (hab.docId_lt hba.not_lt) (UInt32.lt_asymm (hba.docId_lt hab.not_lt))

theorem precedes_of_not_mem (h : Ranked A ix docs terms r en hits) (k : Nat) {hit : Hit R}
    (hm : hit ∈ hits.take k) {d : DocId} (hd : d ∈ docs)
    (hn : d ∉ (hits.take k).map Hit.docId) : hit.Precedes A ⟨d, r.score A ix terms en d⟩ := by
  obtain ⟨other, ho, rfl⟩ := List.mem_map.1 (h.perm.mem_iff.2 (DocList.mem_toList.2 hd))
  have hs := h.score_eq other ho
  have hp := h.pairwise
  rw [← List.take_append_drop k hits] at hp ho
  have hdrop := (List.mem_append.1 ho).resolve_left fun ht => hn (List.mem_map_of_mem ht)
  rw [← hs]
  exact (List.pairwise_append.1 hp).2.2 hit hm other hdrop

end Ranked

end Ranked

/-- What a limit makes of the outcome of a search for some documents. -/
structure Limited (A : Arithmetic R) (ix : Index) (query : String) (g : Grammar) (r : Ranking)
    (en : Enumeration) (docs : DocList) (o : Outcome R) (k : Nat) : Prop where
  /-- In the same order of adding up, the first hits are left and nothing else is different. -/
  search_eq : search A ix query g r (some k) en = .ok { o with hits := o.hits.take k }
  precedes : ∀ hit ∈ o.hits.take k, ∀ d ∈ docs, d ∉ (o.hits.take k).map Hit.docId →
    hit.Precedes A ⟨d, r.score A ix o.relevantTerms en d⟩
  /-- In another order only the hits can be different, and not if the scores are the same. -/
  search_eq_of_order : ∀ en', ∃ hits,
    search A ix query g r (some k) en' = .ok { o with hits := hits } ∧
      (SameScores A ix docs o.relevantTerms r en en' → hits = o.hits.take k)
  search_eq_of_eq_zero : r = .none ∨ o.relevantTerms.isEmpty = true → ∀ en',
    search A ix query g r (some k) en' = .ok { o with hits := o.hits.take k }

section Search

variable {ix : Index} {g : Grammar} {query : String} {q : Compiled} {r : Ranking}
variable {en : Enumeration}

theorem search_some_eq (hq : g.compile query = .ok q) (en en' : Enumeration) (k : Nat) :
    search A ix query g r (some k) en' =
      .ok { outcome A ix q r none en with hits := (allHits A ix q r en').take k } := by
  have hl : (allHits A ix q r en').length = (allHits A ix q r en).length := by
    have h := map_docId_rank_perm A ix (q.evaluate ix) (relevantTerms ix q.relevantWords) r
    have hp := (h en').trans (h en).symm
    simpa [allHits] using hp.length_eq
  refine search_eq_ok_iff.2 ⟨q, hq, ?_⟩
  rw [outcome, outcome, hl]

theorem search_some_of_sameScores (hq : g.compile query = .ok q) {en' : Enumeration}
    (hs : SameScores A ix (q.evaluate ix) (relevantTerms ix q.relevantWords) r en en') (k : Nat) :
    search A ix query g r (some k) en' = .ok { outcome A ix q r none en with
      hits := (outcome A ix q r none en).hits.take k } := by
  rw [search_some_eq hq en en', allHits, ← hs.rank_eq]
  rfl

theorem search_some_of_exact [Field R] [LinearOrder R] (hA : A.Exact) {o : Outcome R}
    (ho : search A ix query g r none en = .ok o) (k : Nat) (en' : Enumeration) :
    search A ix query g r (some k) en' = .ok { o with hits := o.hits.take k } := by
  obtain ⟨q, hq, rfl⟩ := search_eq_ok_iff.1 ho
  exact search_some_of_sameScores hq (sameScores_of_exact hA) k

/-- A search ranks the documents that the query asks for, and with a limit gives the first of them,
if it gives them the same scores. -/
theorem search_ranked (hq : g.compile query = .ok q)
    (hc : Comparable A ((q.evaluate ix).toList.map
      (r.score A ix (relevantTerms ix q.relevantWords) en))) :
    ∃ o, search A ix query g r none en = .ok o ∧ o.queryWords = q.relevantWords ∧
      o.relevantTerms = relevantTerms ix q.relevantWords ∧ o.totalHits = o.hits.length ∧
      Ranked A ix (q.evaluate ix) o.relevantTerms r en o.hits ∧
      ∀ k, Limited A ix query g r en (q.evaluate ix) o k := by
  have hr := ranked_rank hc
  refine ⟨outcome A ix q r none en, search_eq_ok_iff.2 ⟨q, hq, rfl⟩, rfl, rfl, rfl, hr, ?_⟩
  intro k
  constructor
  case search_eq => exact search_some_of_sameScores hq (.refl A ix _ _ r en) k
  case precedes => exact fun hit hm d hd hn => hr.precedes_of_not_mem k hm hd hn
  case search_eq_of_order =>
    intro en'
    refine ⟨(allHits A ix q r en').take k, search_some_eq hq en en' k, fun hs => ?_⟩
    exact congrArg (List.take k) hs.rank_eq.symm
  case search_eq_of_eq_zero =>
    exact fun h en' => search_some_of_sameScores hq (sameScores_of_eq_zero h) k

end Search

noncomputable def real : Arithmetic ℝ where
  ofNat n := n
  add := (· + ·)
  mul := (· * ·)
  div := (· / ·)
  ln := Real.log
  sqrt := Real.sqrt
  isZero x := x = 0
  lt x y := x < y

theorem comparable_real (xs : List ℝ) : Comparable real xs :=
  comparable_of_lt_iff id fun _ _ _ _ => decide_eq_true_iff

def letters : Terms.Preprocessor where
  terms text := text.toList.map String.singleton
  term word := word
  isStopWord _ := false

def letterIndex : Index :=
  ((Index.empty letters).addTexts [⟨"a", "w"⟩, ⟨"aa", "x"⟩, ⟨"b", "y"⟩, ⟨"a", "z"⟩]).1

theorem score_letterIndex {d : DocId} {n : Nat}
    (h : letterIndex.additiveScore real d (.ofList ["a"]) =
      real.add (real.ofNat 0) (real.mul (real.add (real.ofNat 1) (real.ln (real.ofNat n)))
        (real.ln (real.div (real.ofNat 4) (real.ofNat 3))))) :
    Ranking.additive.score real letterIndex (.ofList ["a"]) .ascending d =
      (1 + Real.log n) * Real.log (4 / 3) := by
  refine Eq.trans (b := letterIndex.additiveScore real d (.ofList ["a"])) rfl (h.trans ?_)
  simp [real]

theorem ranked_letterIndex : Ranked real letterIndex (letterIndex.documents "a") (.ofList ["a"])
    .additive .ascending [⟨1, (1 + Real.log 2) * Real.log (4 / 3)⟩, ⟨0, Real.log (4 / 3)⟩,
      ⟨3, Real.log (4 / 3)⟩] := by
  have hl : Real.log (4 / 3) < (1 + Real.log 2) * Real.log (4 / 3) := by
    have h₂ : 0 < Real.log 2 := Real.log_pos (by norm_num)
    have h₄ : 0 < Real.log (4 / 3) := Real.log_pos (by norm_num)
    exact lt_mul_of_one_lt_left h₄ (by linarith)
  have hf : ∀ d, Hit.Precedes real ⟨1, (1 + Real.log 2) * Real.log (4 / 3)⟩
      ⟨d, Real.log (4 / 3)⟩ := fun d =>
    ⟨decide_eq_false hl.asymm, fun hn => absurd hl (of_decide_eq_false hn)⟩
  have ht : Hit.Precedes real ⟨0, Real.log (4 / 3)⟩ ⟨3, Real.log (4 / 3)⟩ :=
    ⟨decide_eq_false (lt_irrefl _), fun _ => by decide⟩
  constructor
  case perm => decide +kernel
  case score_eq =>
    have h₀ := score_letterIndex (d := 0) (n := 1) rfl
    have h₁ := score_letterIndex (d := 1) (n := 2) rfl
    have h₃ := score_letterIndex (d := 3) (n := 1) rfl
    simp only [List.forall_mem_cons, h₀, h₁, h₃]
    simp
  case pairwise => simp [hf, ht]
  case eq_map =>
    rintro (h | h)
    · cases h
    · exact absurd h (by decide)

theorem ranked_of_equal_scores : ∃ q o, Grammar.compile .infixed "a" = .ok q ∧
    Comparable real ((q.evaluate letterIndex).toList.map
      (Ranking.additive.score real letterIndex (relevantTerms letterIndex q.relevantWords)
        .ascending)) ∧
    search real letterIndex "a" .infixed .additive none .ascending = .ok o ∧ o.totalHits = 3 ∧
    o.hits = [⟨1, (1 + Real.log 2) * Real.log (4 / 3)⟩, ⟨0, Real.log (4 / 3)⟩,
      ⟨3, Real.log (4 / 3)⟩] ∧
    ∀ k, search real letterIndex "a" .infixed .additive (some k) .ascending =
      .ok { o with hits := o.hits.take k } := by
  obtain ⟨q, hq⟩ : ∃ q, Grammar.compile .infixed "a" = .ok q := ⟨_, rfl⟩
  have hc := comparable_real ((q.evaluate letterIndex).toList.map
    (Ranking.additive.score real letterIndex (relevantTerms letterIndex q.relevantWords)
      .ascending))
  obtain ⟨o, hs, _, ht, hn, hr, hk⟩ := search_ranked hq hc
  rw [ht] at hr
  cases hq
  have hh := hr.unique ranked_letterIndex
  rw [hh] at hn
  exact ⟨_, o, rfl, hc, hs, hn, hh, fun k => (hk k).search_eq⟩

/-- Doubles, with the logarithms that the scores of `tiedIndex` are made of, as `Float.log` has no
value in a proof. -/
def doubles : Arithmetic Float :=
  { Arithmetic.float with
    ln := fun x =>
      if x == 1 then 0
      else if x == 1.5 then .ofBits 0x3FD9F323ECBF984C
      else .ofBits 0x3FF193EA7AAD030B }

/-- The index of a text without the terms of two others, of which each has two of four terms three
times and two of them once, so that their scores are sums of the same four numbers. -/
def tiedIndex : Index :=
  ((Index.empty letters).addTexts [⟨"abcccddd", "x"⟩, ⟨"aaabbbcd", "y"⟩, ⟨"e", "z"⟩]).1

def tiedTerms : WordSet :=
  .ofList ["a", "b", "c", "d"]

def tiedHit (en : Enumeration) (d : DocId) : Hit Float :=
  ⟨d, Ranking.additive.score doubles tiedIndex tiedTerms en d⟩

theorem compile_tied : ∃ q, Grammar.compile .infixed "a|b|c|d" = .ok q ∧
    (q.evaluate tiedIndex).toList = [0, 1] ∧
    relevantTerms tiedIndex q.relevantWords = tiedTerms := by
  obtain ⟨q, hq⟩ : ∃ q, Grammar.compile .infixed "a|b|c|d" = .ok q := ⟨_, rfl⟩
  cases hq
  refine ⟨_, rfl, by decide +kernel, ?_⟩
  refine congrArg (fun l : List String => (.ofList l : WordSet)) ?_
  decide +kernel

theorem comparable_tied : ∀ en ∈ [Enumeration.ascending, .descending],
    Comparable doubles ([0, 1].map (Ranking.additive.score doubles tiedIndex tiedTerms en)) := by
  simp only [List.forall_mem_cons, List.not_mem_nil, false_implies, implies_true, and_true]
  exact ⟨⟨by decide +kernel, by decide +kernel⟩, ⟨by decide +kernel, by decide +kernel⟩⟩

theorem precedes_tied : (tiedHit .ascending 1).Precedes doubles (tiedHit .ascending 0) ∧
    (tiedHit .descending 0).Precedes doubles (tiedHit .descending 1) :=
  ⟨⟨by decide +kernel, by decide +kernel⟩, ⟨by decide +kernel, by decide +kernel⟩⟩

theorem allHits_tied {q : Compiled} {en : Enumeration} {a b : DocId}
    (ht : relevantTerms tiedIndex q.relevantWords = tiedTerms)
    (hd : [a, b].Perm (q.evaluate tiedIndex).toList)
    (hc : Comparable doubles ((q.evaluate tiedIndex).toList.map
      (Ranking.additive.score doubles tiedIndex tiedTerms en)))
    (h : (tiedHit en a).Precedes doubles (tiedHit en b)) :
    allHits doubles tiedIndex q .additive en = [tiedHit en a, tiedHit en b] := by
  rw [allHits, ht]
  refine (ranked_rank hc).unique ?_
  constructor
  case perm => exact hd
  case score_eq => simp [tiedHit]
  case pairwise => simp [h]
  case eq_map =>
    rintro (h | h)
    · cases h
    · exact absurd h (by decide)

/-- Two searches that add up in different orders can differ in which document comes first, although
each of them ranks as it should. -/
theorem search_some_of_other_order : ∃ q o o', Grammar.compile .infixed "a|b|c|d" = .ok q ∧
    (∀ en ∈ [Enumeration.ascending, .descending],
      Comparable doubles ((q.evaluate tiedIndex).toList.map
        (Ranking.additive.score doubles tiedIndex (relevantTerms tiedIndex q.relevantWords) en))) ∧
    search doubles tiedIndex "a|b|c|d" .infixed .additive none .ascending = .ok o ∧
    search doubles tiedIndex "a|b|c|d" .infixed .additive (some 1) .descending = .ok o' ∧
    o.hits.map Hit.docId = [1, 0] ∧ o'.hits.map Hit.docId = [0] ∧ o'.hits ≠ o.hits.take 1 := by
  obtain ⟨q, hq, hd, ht⟩ := compile_tied
  have hc := comparable_tied
  rw [← hd] at hc
  have ha : allHits doubles tiedIndex q .additive .ascending =
      [tiedHit .ascending 1, tiedHit .ascending 0] :=
    allHits_tied ht (hd ▸ .swap 0 1 []) (hc .ascending (by simp)) precedes_tied.1
  have hb : allHits doubles tiedIndex q .additive .descending =
      [tiedHit .descending 0, tiedHit .descending 1] :=
    allHits_tied ht (hd ▸ .rfl) (hc .descending (by simp)) precedes_tied.2
  rw [← ht] at hc
  refine ⟨q, outcome doubles tiedIndex q .additive none .ascending,
    outcome doubles tiedIndex q .additive (some 1) .descending, hq, hc,
    search_eq_ok_iff.2 ⟨q, hq, rfl⟩, search_eq_ok_iff.2 ⟨q, hq, rfl⟩, ?_⟩
  simp [outcome, ha, hb, tiedHit]

end Retrieval.Search
