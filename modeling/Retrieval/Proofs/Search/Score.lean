import Retrieval.Proofs.Index.Score
import Retrieval.Proofs.Search.Ranked

namespace Retrieval.Search

open Index

/-- Both scores of a document for some terms are defined and say alike whether there is a match. -/
structure ScoresAgree {R : Type} [Field R] [LinearOrder R] (A : Arithmetic R) (ix : Index)
    (d : DocId) (terms : WordSet) (o : WordOrder) : Prop where
  one_le_size : ∀ (term : String) (l : PostingList), ix.postings[term]? = some l → 1 ≤ l.size
  size_le : ∀ (term : String) (l : PostingList), ix.postings[term]? = some l →
    l.size ≤ ix.bags.size
  one_le_quotient : ∀ (term : String) (l : PostingList), ix.postings[term]? = some l →
    1 ≤ A.div (A.ofNat ix.bags.size) (A.ofNat l.size)
  additiveScore_nonneg : 0 ≤ ix.additiveScore A d terms o
  dot_nonneg : ∀ b, ix.bags[d]? = some b → 0 ≤ (comparison A ix b terms o).dot
  dot_sq_le : ∀ b, ix.bags[d]? = some b → (comparison A ix b terms o).dot ^ 2 ≤
    (comparison A ix b terms o).document * (comparison A ix b terms o).query
  divisor_ne_zero : ∀ b, ix.bags[d]? = some b → (comparison A ix b terms o).document ≠ 0 →
    (comparison A ix b terms o).query ≠ 0 → A.mul (A.sqrt (comparison A ix b terms o).document)
      (A.sqrt (comparison A ix b terms o).query) ≠ 0
  additiveScore_eq_zero_iff : ix.additiveScore A d terms o = 0 ↔ ¬ix.Matches d terms
  cosineScore_eq_zero_iff : ix.cosineScore A d terms o = 0 ↔ ¬ix.Matches d terms

/-- Whatever an index has been through, a document's scores are zero if and only if none of the
terms occurs in it, except for terms that all documents have. -/
theorem scoresAgree {R : Type} [Field R] [LinearOrder R] [IsStrictOrderedRing R]
    {A : Arithmetic R} (hA : A.Exact) (p : Terms.Preprocessor) (cs : List Change) (d : DocId)
    (terms : WordSet) (o : WordOrder) : ScoresAgree A ((Index.empty p).run cs) d terms o := by
  have hc : ((Index.empty p).run cs).Consistent := (consistent_empty p).run cs
  generalize (Index.empty p).run cs = ix at hc
  have hle : ∀ (term : String) (l : PostingList), ix.postings[term]? = some l →
      l.size ≤ ix.bags.size := fun term l hl => by
    have h := hc.documentFrequency_le term
    rwa [documentFrequency, hl] at h
  constructor
  case one_le_size => exact fun term l hl => hc.size_pos hl
  case size_le => exact hle
  case one_le_quotient =>
    exact fun term l hl => hA.one_le_quotient (hc.size_pos hl) (hle term l hl)
  case additiveScore_nonneg => exact hA.additiveScore_nonneg hc d terms o
  case dot_nonneg => exact fun b _ => hA.dot_nonneg hc b terms o
  case dot_sq_le => exact fun b _ => hA.dot_sq_le b terms o
  case divisor_ne_zero => exact fun b _ hd hq => (hA.divisor_pos hd hq).ne'
  case additiveScore_eq_zero_iff =>
    refine ⟨fun hz hm => ?_, hA.additiveScore_eq_zero hc⟩
    exact (hA.additiveScore_pos hc hm).ne' hz
  case cosineScore_eq_zero_iff =>
    refine ⟨fun hz hm => ?_, hA.cosineScore_eq_zero hc⟩
    exact (hA.cosineScore_pos hc hm).ne' hz

theorem exact_real : real.Exact where
  ofNat_eq _ := rfl
  add_eq _ _ := rfl
  mul_eq _ _ := rfl
  div_eq _ _ _ := rfl
  isZero_iff _ := decide_eq_true_iff
  ln_one := Real.log_one
  ln_pos _ := Real.log_pos
  sqrt_pos _ := Real.sqrt_pos.2

def sharedTerm : List Change :=
  [.text "ab" "x", .text "a" "y"]

theorem matches_sharedTerm :
    ((Index.empty letters).run sharedTerm).Matches 0 (.ofList ["a", "b"]) :=
  ⟨"b", by decide, by decide +kernel, by decide +kernel⟩

theorem not_matches_sharedTerm :
    ¬((Index.empty letters).run sharedTerm).Matches 1 (.ofList ["a", "b"]) := by
  rintro ⟨term, hm, ho, hl⟩
  have ht : term = "a" ∨ term = "b" := by simpa [Std.TreeSet.mem_ofList] using hm
  rcases ht with rfl | rfl
  · exact absurd hl (by decide +kernel)
  · exact absurd ho (by decide +kernel)

theorem scoresAgree_of_shared_term : real.Exact ∧
    ((Index.empty letters).run sharedTerm).additiveScore real 0 (.ofList ["a", "b"]) ≠ 0 ∧
    ((Index.empty letters).run sharedTerm).cosineScore real 0 (.ofList ["a", "b"]) ≠ 0 ∧
    ((Index.empty letters).run sharedTerm).additiveScore real 1 (.ofList ["a", "b"]) = 0 ∧
    ((Index.empty letters).run sharedTerm).cosineScore real 1 (.ofList ["a", "b"]) = 0 := by
  have h₀ := scoresAgree exact_real letters sharedTerm 0 (.ofList ["a", "b"]) .ascending
  have h₁ := scoresAgree exact_real letters sharedTerm 1 (.ofList ["a", "b"]) .ascending
  refine ⟨exact_real, fun hz => ?_, fun hz => ?_, ?_, ?_⟩
  · exact h₀.additiveScore_eq_zero_iff.1 hz matches_sharedTerm
  · exact h₀.cosineScore_eq_zero_iff.1 hz matches_sharedTerm
  · exact h₁.additiveScore_eq_zero_iff.2 not_matches_sharedTerm
  · exact h₁.cosineScore_eq_zero_iff.2 not_matches_sharedTerm

end Retrieval.Search
