import Retrieval.Index.Weight
import Retrieval.Proofs.Index.Comprises

namespace Retrieval.Index

variable {R : Type} (A : Arithmetic R) {ix ix' : Index} {b b' : Bag} {d d' : DocId}

theorem weight_congr
    (hf : ∀ term, ix.documentFrequency term = ix'.documentFrequency term)
    (hs : ix.bags.size = ix'.bags.size)
    (ho : ∀ term, b.occurrences term = b'.occurrences term) :
    weight A ix b = weight A ix' b' := by
  funext term
  have hi : inverseFrequency A ix term = inverseFrequency A ix' term := by
    rw [inverseFrequency, inverseFrequency, hf, hs]
  rw [weight, weight, ho, hi]

theorem additiveScore_congr
    (hf : ∀ term, ix.documentFrequency term = ix'.documentFrequency term)
    (hs : ix.bags.size = ix'.bags.size) (hb : Option.Rel Bag.Equiv ix.bags[d]? ix'.bags[d']?)
    (terms : WordSet) (o : WordOrder) :
    ix.additiveScore A d terms o = ix'.additiveScore A d' terms o := by
  rw [additiveScore, additiveScore]
  generalize ix.bags[d]? = bag, ix'.bags[d']? = bag' at hb
  cases hb with
  | none => rfl
  | @some b b' h =>
    have hw := weight_congr A hf hs h.occurrences_eq
    simp only [hw]

theorem cosineScore_congr
    (hf : ∀ term, ix.documentFrequency term = ix'.documentFrequency term)
    (hs : ix.bags.size = ix'.bags.size) (hb : Option.Rel Bag.Equiv ix.bags[d]? ix'.bags[d']?)
    (terms : WordSet) (o : WordOrder) :
    ix.cosineScore A d terms o = ix'.cosineScore A d' terms o := by
  rw [cosineScore, cosineScore]
  generalize ix.bags[d]? = bag, ix'.bags[d']? = bag' at hb
  cases hb with
  | none => rfl
  | @some b b' h =>
    have hw := weight_congr A hf hs h.occurrences_eq
    have hq := weight_congr A (b := Bag.ofTerms terms.toList) hf hs fun _ => rfl
    have hp : products A ix b (Bag.ofTerms terms.toList) =
        products A ix' b' (Bag.ofTerms terms.toList) := by
      funext ts
      rw [products, products, hw, hq]
    simp only [hp, h.terms_eq]

end Retrieval.Index
