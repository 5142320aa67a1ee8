import Mathlib.Algebra.Order.BigOperators.Ring.Finset
import Mathlib.Algebra.Order.Field.Basic
import Retrieval.Proofs.Index.Census

namespace Retrieval.Index

/-- Numbers without rounding. Nothing is known of a quotient by zero, of the logarithm of a number
below one or of the root of one that is not positive. -/
structure Arithmetic.Exact {R : Type} [Field R] [LinearOrder R] (A : Arithmetic R) : Prop where
  ofNat_eq : ∀ n, A.ofNat n = n
  add_eq : ∀ x y, A.add x y = x + y
  mul_eq : ∀ x y, A.mul x y = x * y
  div_eq : ∀ x y, y ≠ 0 → A.div x y = x / y
  isZero_iff : ∀ x, A.isZero x ↔ x = 0
  ln_one : A.ln 1 = 0
  ln_pos : ∀ x, 1 < x → 0 < A.ln x
  sqrt_pos : ∀ x, 0 < x → 0 < A.sqrt x

namespace Bag

theorem mem_terms_of_occurrences_pos {b : Bag} {term : String} (h : 0 < b.occurrences term) :
    term ∈ b.terms := by
  rw [terms, Std.TreeMap.mem_keys, Std.TreeMap.mem_iff_isSome_getElem?]
  rw [occurrences] at h
  cases hc : b.counts[term]? with
  | none => simp [hc] at h
  | some n => rfl

theorem occurrences_foldl_add (terms : List String) (b : Bag) (term : String) :
    (terms.foldl (fun b t => if b.occurrences t = 0 then b.add t 1 else b) b).occurrences term =
      if b.occurrences term = 0 ∧ term ∈ terms then 1 else b.occurrences term := by
  induction terms generalizing b with
  | nil => simp
  | cons t terms ih =>
    rw [List.foldl_cons, ih]
    by_cases ht : t = term
    · subst ht
      by_cases hz : b.occurrences t = 0
      · simp [hz]
      · simp [hz]
    · by_cases hz : b.occurrences t = 0
      · simp [hz, ht, Ne.symm ht]
      · simp [hz, Ne.symm ht]

theorem occurrences_ofTerms (terms : List String) (term : String) :
    (ofTerms terms).occurrences term = if term ∈ terms then 1 else 0 := by
  have h := occurrences_foldl_add terms empty term
  simpa [ofTerms] using h

theorem occurrences_ofTerms_pos {terms : List String} {term : String} (h : term ∈ terms) :
    0 < (ofTerms terms).occurrences term := by
  rw [occurrences_ofTerms, if_pos h]
  exact Nat.one_pos

end Bag

theorem occurrences_of_some {ix : Index} {d : DocId} {b : Bag} (h : ix.bags[d]? = some b)
    (term : String) : ix.occurrences d term = b.occurrences term := by
  rw [occurrences, h]

theorem exists_of_occurrences_pos {ix : Index} {d : DocId} {term : String}
    (h : 0 < ix.occurrences d term) : ∃ b, ix.bags[d]? = some b := by
  rw [occurrences] at h
  cases hb : ix.bags[d]? with
  | none => simp [hb] at h
  | some b => exact ⟨b, rfl⟩

namespace Consistent

variable {ix : Index} (h : ix.Consistent)

include h

theorem size_pos {term : String} {l : PostingList} (hl : ix.postings[term]? = some l) :
    0 < l.size := by
  have hn := h.postings_ne_nil term l hl
  rw [PostingList.size, ← Array.length_toList]
  exact List.length_pos_iff.2 hn

theorem documentFrequency_le (term : String) : ix.documentFrequency term ≤ ix.bags.size := by
  rw [documentFrequency_eq_length, size_bags_eq_length]
  have hs : (ix.documents term).toList ⊆ ix.allDocuments.toList := fun _ hd =>
    h.documents_subset hd
  exact (List.subperm_of_subset (ix.documents term).nodup_toList hs).length_le

theorem documentFrequency_pos {d : DocId} {term : String} (ho : 0 < ix.occurrences d term) :
    0 < ix.documentFrequency term := by
  rw [← h.frequency_eq, ← h.mem_documents_iff] at ho
  rw [documentFrequency_eq_length]
  exact List.length_pos_of_mem ho

end Consistent

/-- Whether some documents with terms have this one and others have not. -/
def Discriminates (ix : Index) (term : String) : Prop :=
  0 < ix.documentFrequency term ∧ ix.documentFrequency term < ix.bags.size

/-- Whether one of the terms occurs in a document, but not in all documents that have terms. -/
def Matches (ix : Index) (d : DocId) (terms : WordSet) : Prop :=
  ∃ term ∈ terms, 0 < ix.occurrences d term ∧ ix.documentFrequency term < ix.bags.size

theorem Consistent.matches_iff {ix : Index} (h : ix.Consistent) {d : DocId} {terms : WordSet} :
    ix.Matches d terms ↔ ∃ term ∈ terms, 0 < ix.occurrences d term ∧ ix.Discriminates term := by
  constructor
  · rintro ⟨term, hm, ho, hl⟩
    exact ⟨term, hm, ho, h.documentFrequency_pos ho, hl⟩
  · rintro ⟨term, hm, ho, _, hl⟩
    exact ⟨term, hm, ho, hl⟩

def vocabulary (b : Bag) (terms : WordSet) : WordSet :=
  .ofList (b.terms ++ (Bag.ofTerms terms.toList).terms)

def support (b : Bag) (terms : WordSet) : Finset String :=
  (vocabulary b terms).toList.toFinset

theorem nodup_toList (terms : WordSet) : terms.toList.Nodup := by
  have h := Std.TreeSet.distinct_toList (t := terms)
  exact h.imp fun hne he => hne (Std.LawfulEqCmp.compare_eq_iff_eq.2 he)

/-- Without rounding it does not matter in which order numbers are added. -/
theorem WordOrder.sum_list {M : Type} [AddCommMonoid M] (o : WordOrder) (ws : WordSet)
    (f : String → M) : ((o.list ws).map f).sum = ∑ t ∈ ws.toList.toFinset, f t := by
  have hn : (o.list ws).Nodup := (o.perm ws).nodup_iff.2 (nodup_toList ws)
  rw [← List.toFinset_eq_of_perm _ _ (o.perm ws), List.sum_toFinset _ hn]

theorem mem_support_of_occurrences_pos {b : Bag} {term : String} (h : 0 < b.occurrences term)
    (terms : WordSet) : term ∈ support b terms := by
  rw [support, List.mem_toFinset, Std.TreeSet.mem_toList, vocabulary, Std.TreeSet.mem_ofList,
    List.contains_iff_mem, List.mem_append]
  exact .inl (Bag.mem_terms_of_occurrences_pos h)

section Comparison

variable {R : Type} (A : Arithmetic R) (ix : Index)

def comparison (b : Bag) (terms : WordSet) (o : WordOrder) : Products R :=
  products A ix b (Bag.ofTerms terms.toList) (o.list (vocabulary b terms))

variable {ix} in
theorem cosineScore_of_some {d : DocId} {b : Bag} (h : ix.bags[d]? = some b) (terms : WordSet)
    (o : WordOrder) : ix.cosineScore A d terms o =
      let p := comparison A ix b terms o
      if A.isZero p.document || A.isZero p.query then A.ofNat 0
      else A.div p.dot (A.mul (A.sqrt p.document) (A.sqrt p.query)) := by
  rw [cosineScore, h]
  rfl

variable {ix} in
theorem additiveScore_of_some {d : DocId} {b : Bag} (h : ix.bags[d]? = some b) (terms : WordSet)
    (o : WordOrder) : ix.additiveScore A d terms o =
      (o.list terms).foldl (fun s t => A.add s (weight A ix b t)) (A.ofNat 0) := by
  rw [additiveScore, h]

end Comparison

namespace Arithmetic.Exact

variable {R : Type} [Field R] [LinearOrder R] {A : Arithmetic R} (hA : A.Exact)
  {ix : Index} {b : Bag} {d : DocId} {term : String} {terms : WordSet} {o : WordOrder}

include hA

theorem ofNat_zero : A.ofNat 0 = 0 := by
  rw [hA.ofNat_eq, Nat.cast_zero]

theorem ln_nonneg {x : R} (h : 1 ≤ x) : 0 ≤ A.ln x := by
  rcases h.lt_or_eq with h | h
  · exact (hA.ln_pos x h).le
  · rw [← h, hA.ln_one]

theorem foldl_add (f : String → R) (ts : List String) (s : R) :
    ts.foldl (fun s t => A.add s (f t)) s = s + (ts.map f).sum := by
  induction ts generalizing s with
  | nil => simp
  | cons t ts ih => rw [List.foldl_cons, ih, hA.add_eq, List.map_cons, List.sum_cons, add_assoc]

theorem additiveScore_eq_sum (hb : ix.bags[d]? = some b) :
    ix.additiveScore A d terms o = ∑ t ∈ terms.toList.toFinset, weight A ix b t := by
  rw [additiveScore_of_some A hb, hA.foldl_add, hA.ofNat_zero, zero_add, o.sum_list]

theorem products_eq_sums (b q : Bag) (ts : List String) : products A ix b q ts =
    ⟨(ts.map fun t => weight A ix b t * weight A ix q t).sum,
      (ts.map fun t => weight A ix b t * weight A ix b t).sum,
      (ts.map fun t => weight A ix q t * weight A ix q t).sum⟩ := by
  have hfold : ∀ p : Products R, ts.foldl (fun p t =>
      let x := weight A ix b t
      let y := weight A ix q t
      ⟨A.add p.dot (A.mul x y), A.add p.document (A.mul x x), A.add p.query (A.mul y y)⟩) p =
      ⟨p.dot + (ts.map fun t => weight A ix b t * weight A ix q t).sum,
        p.document + (ts.map fun t => weight A ix b t * weight A ix b t).sum,
        p.query + (ts.map fun t => weight A ix q t * weight A ix q t).sum⟩ := by
    induction ts with
    | nil => simp
    | cons t ts ih =>
      intro p
      rw [List.foldl_cons, ih]
      simp only [hA.add_eq, hA.mul_eq, List.map_cons, List.sum_cons, add_assoc]
  rw [products, hfold]
  simp only [hA.ofNat_zero, zero_add]

variable (ix b terms o) in
theorem comparison_eq_sums : comparison A ix b terms o =
    ⟨∑ t ∈ support b terms, weight A ix b t * weight A ix (Bag.ofTerms terms.toList) t,
      ∑ t ∈ support b terms, weight A ix b t * weight A ix b t,
      ∑ t ∈ support b terms,
        weight A ix (Bag.ofTerms terms.toList) t * weight A ix (Bag.ofTerms terms.toList) t⟩ := by
  rw [comparison, hA.products_eq_sums, o.sum_list, o.sum_list, o.sum_list, support]

variable (ix b terms o) in
theorem dot_eq_sum : (comparison A ix b terms o).dot =
    ∑ t ∈ support b terms, weight A ix b t * weight A ix (Bag.ofTerms terms.toList) t := by
  rw [hA.comparison_eq_sums]

variable (ix b terms o) in
theorem document_eq_sum : (comparison A ix b terms o).document =
    ∑ t ∈ support b terms, weight A ix b t * weight A ix b t := by
  rw [hA.comparison_eq_sums]

variable (ix b terms o) in
theorem query_eq_sum : (comparison A ix b terms o).query = ∑ t ∈ support b terms,
    weight A ix (Bag.ofTerms terms.toList) t * weight A ix (Bag.ofTerms terms.toList) t := by
  rw [hA.comparison_eq_sums]

theorem additiveScore_eq_of_orders (d : DocId) (terms : WordSet) (o o' : WordOrder) :
    ix.additiveScore A d terms o = ix.additiveScore A d terms o' := by
  cases hb : ix.bags[d]? with
  | none => rw [additiveScore, additiveScore, hb]
  | some b => rw [hA.additiveScore_eq_sum hb, hA.additiveScore_eq_sum hb]

theorem cosineScore_eq_of_orders (d : DocId) (terms : WordSet) (o o' : WordOrder) :
    ix.cosineScore A d terms o = ix.cosineScore A d terms o' := by
  cases hb : ix.bags[d]? with
  | none => rw [cosineScore, cosineScore, hb]
  | some b =>
    have hp : comparison A ix b terms o = comparison A ix b terms o' := by
      rw [hA.comparison_eq_sums, hA.comparison_eq_sums]
    rw [cosineScore_of_some A hb, cosineScore_of_some A hb, hp]

theorem termWeight_zero : termWeight A 0 = 0 := by
  rw [termWeight, if_neg (Nat.lt_irrefl 0), hA.ofNat_zero]

theorem cosineScore_of_eq_zero (hb : ix.bags[d]? = some b)
    (h : (comparison A ix b terms o).document = 0 ∨ (comparison A ix b terms o).query = 0) :
    ix.cosineScore A d terms o = 0 := by
  have hz : A.isZero (comparison A ix b terms o).document ||
      A.isZero (comparison A ix b terms o).query := by
    rwa [Bool.or_eq_true, hA.isZero_iff, hA.isZero_iff]
  rw [cosineScore_of_some A hb]
  dsimp only
  rw [if_pos hz, hA.ofNat_zero]

variable [IsStrictOrderedRing R]

theorem quotient_eq {n : Nat} (h : 0 < n) (m : Nat) :
    A.div (A.ofNat m) (A.ofNat n) = (m : R) / n := by
  have hn : (n : R) ≠ 0 := Nat.cast_ne_zero.2 (Nat.ne_of_gt h)
  rw [hA.ofNat_eq, hA.ofNat_eq, hA.div_eq _ _ hn]

theorem one_le_quotient {m n : Nat} (h : 0 < n) (hle : n ≤ m) :
    1 ≤ A.div (A.ofNat m) (A.ofNat n) := by
  have hn : (0 : R) < n := Nat.cast_pos.2 h
  rw [hA.quotient_eq h, one_le_div hn]
  exact Nat.cast_le.2 hle

theorem one_lt_quotient {m n : Nat} (h : 0 < n) (hlt : n < m) :
    1 < A.div (A.ofNat m) (A.ofNat n) := by
  have hn : (0 : R) < n := Nat.cast_pos.2 h
  rw [hA.quotient_eq h, one_lt_div hn]
  exact Nat.cast_lt.2 hlt

theorem inverseFrequency_pos (h : ix.Discriminates term) : 0 < inverseFrequency A ix term := by
  rw [inverseFrequency, if_neg (Nat.ne_of_gt h.1)]
  exact hA.ln_pos _ (hA.one_lt_quotient h.1 h.2)

theorem inverseFrequency_eq_zero (hc : ix.Consistent) (h : ¬ix.Discriminates term) :
    inverseFrequency A ix term = 0 := by
  rw [inverseFrequency]
  split
  · exact hA.ofNat_zero
  · next hz =>
    have hpos := Nat.pos_of_ne_zero hz
    have hall : ix.documentFrequency term = ix.bags.size :=
      Nat.le_antisymm (hc.documentFrequency_le term) (Nat.le_of_not_lt fun hl => h ⟨hpos, hl⟩)
    have hn : (ix.bags.size : R) ≠ 0 := Nat.cast_ne_zero.2 (hall ▸ hz)
    rw [hall, hA.quotient_eq (hall ▸ hpos), div_self hn, hA.ln_one]

theorem termWeight_pos {n : Nat} (h : 0 < n) : 0 < termWeight A n := by
  have hn : (1 : R) ≤ A.ofNat n := by
    rw [hA.ofNat_eq]
    exact Nat.one_le_cast.2 h
  rw [termWeight, if_pos h, hA.add_eq, hA.ofNat_eq, Nat.cast_one]
  exact add_pos_of_pos_of_nonneg one_pos (hA.ln_nonneg hn)

theorem weight_pos (ho : 0 < b.occurrences term) (h : ix.Discriminates term) :
    0 < weight A ix b term := by
  rw [weight, hA.mul_eq]
  exact mul_pos (hA.termWeight_pos ho) (hA.inverseFrequency_pos h)

theorem weight_eq_zero (hc : ix.Consistent)
    (h : ¬(0 < b.occurrences term ∧ ix.Discriminates term)) : weight A ix b term = 0 := by
  rw [weight, hA.mul_eq]
  by_cases ho : 0 < b.occurrences term
  · rw [hA.inverseFrequency_eq_zero hc fun hd => h ⟨ho, hd⟩, mul_zero]
  · rw [Nat.eq_zero_of_not_pos ho, hA.termWeight_zero, zero_mul]

theorem weight_nonneg (hc : ix.Consistent) (b : Bag) (term : String) :
    0 ≤ weight A ix b term := by
  by_cases h : 0 < b.occurrences term ∧ ix.Discriminates term
  · exact (hA.weight_pos h.1 h.2).le
  · exact (hA.weight_eq_zero hc h).ge

theorem dot_nonneg (hc : ix.Consistent) (b : Bag) (terms : WordSet) (o : WordOrder) :
    0 ≤ (comparison A ix b terms o).dot := by
  rw [hA.dot_eq_sum]
  exact Finset.sum_nonneg fun t _ =>
    mul_nonneg (hA.weight_nonneg hc b t) (hA.weight_nonneg hc _ t)

theorem document_nonneg (b : Bag) (terms : WordSet) (o : WordOrder) :
    0 ≤ (comparison A ix b terms o).document := by
  rw [hA.document_eq_sum]
  exact Finset.sum_nonneg fun t _ => mul_self_nonneg _

theorem query_nonneg (b : Bag) (terms : WordSet) (o : WordOrder) :
    0 ≤ (comparison A ix b terms o).query := by
  rw [hA.query_eq_sum]
  exact Finset.sum_nonneg fun t _ => mul_self_nonneg _

theorem dot_sq_le (b : Bag) (terms : WordSet) (o : WordOrder) :
    (comparison A ix b terms o).dot ^ 2 ≤
      (comparison A ix b terms o).document * (comparison A ix b terms o).query := by
  rw [hA.dot_eq_sum, hA.document_eq_sum, hA.query_eq_sum]
  simpa only [sq] using Finset.sum_mul_sq_le_sq_mul_sq (support b terms) (weight A ix b)
    (weight A ix (Bag.ofTerms terms.toList))

theorem divisor_pos (hd : (comparison A ix b terms o).document ≠ 0)
    (hq : (comparison A ix b terms o).query ≠ 0) :
    0 < A.mul (A.sqrt (comparison A ix b terms o).document)
      (A.sqrt (comparison A ix b terms o).query) := by
  have hd' := (hA.document_nonneg b terms o).lt_of_ne' hd
  have hq' := (hA.query_nonneg b terms o).lt_of_ne' hq
  rw [hA.mul_eq]
  exact mul_pos (hA.sqrt_pos _ hd') (hA.sqrt_pos _ hq')

theorem additiveScore_nonneg (hc : ix.Consistent) (d : DocId) (terms : WordSet) (o : WordOrder) :
    0 ≤ ix.additiveScore A d terms o := by
  cases hb : ix.bags[d]? with
  | none => simp [additiveScore, hb, hA.ofNat_zero]
  | some b =>
    rw [hA.additiveScore_eq_sum hb]
    exact Finset.sum_nonneg fun t _ => hA.weight_nonneg hc b t

theorem cosineScore_eq_div (hb : ix.bags[d]? = some b)
    (hd : (comparison A ix b terms o).document ≠ 0) (hq : (comparison A ix b terms o).query ≠ 0) :
    ix.cosineScore A d terms o = (comparison A ix b terms o).dot /
      A.mul (A.sqrt (comparison A ix b terms o).document)
        (A.sqrt (comparison A ix b terms o).query) := by
  have hz : ¬(A.isZero (comparison A ix b terms o).document ||
      A.isZero (comparison A ix b terms o).query) := by
    rw [Bool.or_eq_true, hA.isZero_iff, hA.isZero_iff]
    exact not_or_intro hd hq
  rw [cosineScore_of_some A hb]
  dsimp only
  rw [if_neg hz, hA.div_eq _ _ (hA.divisor_pos hd hq).ne']

section Matches

variable (hc : ix.Consistent)

include hc

theorem mul_weights_eq_zero (h : 0 < b.occurrences term → term ∈ terms → ¬ix.Discriminates term) :
    weight A ix b term * weight A ix (Bag.ofTerms terms.toList) term = 0 := by
  by_cases hw : 0 < b.occurrences term ∧ ix.Discriminates term
  · have hq : (Bag.ofTerms terms.toList).occurrences term = 0 := by
      rw [Bag.occurrences_ofTerms, if_neg]
      exact fun hm => h hw.1 (Std.TreeSet.mem_toList.1 hm) hw.2
    rw [hA.weight_eq_zero hc (b := Bag.ofTerms terms.toList) (by simp [hq]), mul_zero]
  · rw [hA.weight_eq_zero hc hw, zero_mul]

theorem additiveScore_pos (h : ix.Matches d terms) : 0 < ix.additiveScore A d terms o := by
  obtain ⟨t, ht, ho, hd⟩ := hc.matches_iff.1 h
  obtain ⟨b, hb⟩ := exists_of_occurrences_pos ho
  rw [occurrences_of_some hb] at ho
  rw [hA.additiveScore_eq_sum hb]
  refine Finset.sum_pos' (fun t _ => hA.weight_nonneg hc b t) ⟨t, ?_, hA.weight_pos ho hd⟩
  rwa [List.mem_toFinset, Std.TreeSet.mem_toList]

theorem additiveScore_eq_zero (h : ¬ix.Matches d terms) : ix.additiveScore A d terms o = 0 := by
  cases hb : ix.bags[d]? with
  | none => simp [additiveScore, hb, hA.ofNat_zero]
  | some b =>
    rw [hA.additiveScore_eq_sum hb]
    refine Finset.sum_eq_zero fun t ht => hA.weight_eq_zero hc fun hw => h (hc.matches_iff.2 ?_)
    rw [List.mem_toFinset, Std.TreeSet.mem_toList] at ht
    exact ⟨t, ht, by rw [occurrences_of_some hb]; exact hw.1, hw.2⟩

theorem cosineScore_pos (h : ix.Matches d terms) : 0 < ix.cosineScore A d terms o := by
  obtain ⟨t, ht, ho, hd⟩ := hc.matches_iff.1 h
  obtain ⟨b, hb⟩ := exists_of_occurrences_pos ho
  rw [occurrences_of_some hb] at ho
  have hx : 0 < weight A ix b t := hA.weight_pos ho hd
  have hy : 0 < weight A ix (Bag.ofTerms terms.toList) t :=
    hA.weight_pos (Bag.occurrences_ofTerms_pos (Std.TreeSet.mem_toList.2 ht)) hd
  have hs := mem_support_of_occurrences_pos ho terms
  have hdot : 0 < (comparison A ix b terms o).dot := by
    rw [hA.dot_eq_sum]
    exact Finset.sum_pos' (fun t _ => mul_nonneg (hA.weight_nonneg hc b t)
      (hA.weight_nonneg hc _ t)) ⟨t, hs, mul_pos hx hy⟩
  have hdoc : 0 < (comparison A ix b terms o).document := by
    rw [hA.document_eq_sum]
    exact Finset.sum_pos' (fun t _ => mul_self_nonneg _) ⟨t, hs, mul_pos hx hx⟩
  have hquery : 0 < (comparison A ix b terms o).query := by
    rw [hA.query_eq_sum]
    exact Finset.sum_pos' (fun t _ => mul_self_nonneg _) ⟨t, hs, mul_pos hy hy⟩
  rw [hA.cosineScore_eq_div hb hdoc.ne' hquery.ne']
  exact div_pos hdot (hA.divisor_pos hdoc.ne' hquery.ne')

theorem cosineScore_eq_zero (h : ¬ix.Matches d terms) : ix.cosineScore A d terms o = 0 := by
  cases hb : ix.bags[d]? with
  | none => rw [cosineScore, hb, hA.ofNat_zero]
  | some b =>
    by_cases hz : (comparison A ix b terms o).document = 0 ∨ (comparison A ix b terms o).query = 0
    · exact hA.cosineScore_of_eq_zero hb hz
    · rw [not_or] at hz
      have hdot : (comparison A ix b terms o).dot = 0 := by
        rw [hA.dot_eq_sum]
        refine Finset.sum_eq_zero fun t _ => hA.mul_weights_eq_zero hc fun ho hm hd => ?_
        exact h (hc.matches_iff.2 ⟨t, hm, by rwa [occurrences_of_some hb], hd⟩)
      rw [hA.cosineScore_eq_div hb hz.1 hz.2, hdot, zero_div]

end Matches

end Arithmetic.Exact

end Retrieval.Index
