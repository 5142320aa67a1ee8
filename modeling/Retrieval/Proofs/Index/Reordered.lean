import Retrieval.Proofs.Index.Census
import Retrieval.Proofs.Index.Weight

namespace Retrieval.Index

def IsBagOf (terms : List String) : Option Bag → Prop
  | none => terms = []
  | some b => terms ≠ [] ∧ b.Positive ∧ ∀ term, b.occurrences term = terms.count term

theorem IsBagOf.rel {terms : List String} {bag bag' : Option Bag} (h : IsBagOf terms bag)
    (h' : IsBagOf terms bag') : Option.Rel Bag.Equiv bag bag' := by
  cases bag with
  | none =>
    cases bag' with
    | none => exact .none
    | some b' => exact absurd h h'.1
  | some b =>
    cases bag' with
    | none => exact absurd h' h.1
    | some b' =>
      have ho : ∀ term, b.occurrences term = b'.occurrences term := fun term => by
        rw [h.2.2, h'.2.2]
      exact .some (h.2.1.equiv h'.2.1 ho)

theorem Comprises.isBagOf {ix : Index} {docs : List Document} {d : DocId} {doc : Document}
    (h : ix.Comprises docs) (hd : docs[d.toNat]? = some doc) :
    IsBagOf (ix.preprocessor.terms doc.text) ix.bags[d]? := by
  have hm : d ∈ ix.bags ↔ ix.preprocessor.terms doc.text ≠ [] := by
    rw [← mem_allDocuments, h.mem_allDocuments_iff, hd]
    simp
  have ho : ∀ term, ix.occurrences d term = (ix.preprocessor.terms doc.text).count term := by
    intro term
    rw [h.occurrences_eq, hd]
  rw [Std.TreeMap.mem_iff_isSome_getElem?] at hm
  cases hb : ix.bags[d]? with
  | none => simpa [IsBagOf, hb] using hm
  | some b =>
    have hn : ix.preprocessor.terms doc.text ≠ [] := hm.1 (by rw [hb, Option.isSome_some])
    refine ⟨hn, h.positiveBags d b hb, fun term => ?_⟩
    rw [← ho, occurrences, hb]

/-- What two indexes have in common if they have the same documents under different ids. -/
structure Reordered (ix ix' : Index) : Prop where
  stats_eq : ix.stats = ix'.stats
  documentFrequency_eq : ∀ term, ix.documentFrequency term = ix'.documentFrequency term
  size_bags_eq : ix.bags.size = ix'.bags.size
  exists_filePath_iff : ∀ path,
    (∃ d, ix.filePath d = .ok path) ↔ ∃ d, ix'.filePath d = .ok path
  bags : ∀ {d d' : DocId} {path : String}, ix.filePath d = .ok path → ix'.filePath d' = .ok path →
    Option.Rel Bag.Equiv ix.bags[d]? ix'.bags[d']?

namespace Reordered

variable {ix ix' : Index} {docs docs' : List Document}

theorem of_perm (h : ix.Comprises docs) (h' : ix'.Comprises docs') (hp : docs.Perm docs')
    (he : ix.preprocessor = ix'.preprocessor) : Reordered ix ix' where
  stats_eq := by
    have ht := (hp.flatMap_right fun doc => ix'.preprocessor.terms doc.text).dedup.length_eq
    have hs := (hp.map fun doc => (ix'.preprocessor.terms doc.text).length).sum_nat
    rw [stats, stats, h.documentCount_eq, h'.documentCount_eq, h.termCount_eq_length_dedup,
      h'.termCount_eq_length_dedup, h.tokenCount_eq_sum, h'.tokenCount_eq_sum, he, hp.length_eq, ht,
      hs]
  documentFrequency_eq term := by
    rw [h.documentFrequency_eq_countP, h'.documentFrequency_eq_countP, he, hp.countP_eq]
  size_bags_eq := by
    rw [h.size_bags_eq_countP, h'.size_bags_eq_countP, he, hp.countP_eq]
  exists_filePath_iff path := by
    rw [h.exists_filePath_iff, h'.exists_filePath_iff, (hp.map Document.path).mem_iff]
  bags {d d' path} hd hd' := by
    obtain ⟨doc, hdoc, hpath⟩ := h.filePath_eq_ok_iff.1 hd
    obtain ⟨doc', hdoc', hpath'⟩ := h'.filePath_eq_ok_iff.1 hd'
    have hm : doc' ∈ docs := hp.mem_iff.2 (List.mem_of_getElem? hdoc')
    obtain rfl : doc = doc' := List.inj_on_of_nodup_map h.nodup_paths
      (List.mem_of_getElem? hdoc) hm (hpath.trans hpath'.symm)
    have hb := h.isBagOf hdoc
    have hb' := h'.isBagOf hdoc'
    rw [he] at hb
    exact hb.rel hb'

variable {d d' : DocId} {path : String} (h : Reordered ix ix') (hd : ix.filePath d = .ok path)
  (hd' : ix'.filePath d' = .ok path)

include h hd hd'

theorem occurrences_eq (term : String) : ix.occurrences d term = ix'.occurrences d' term := by
  have hb := h.bags hd hd'
  rw [occurrences, occurrences]
  generalize ix.bags[d]? = bag, ix'.bags[d']? = bag' at hb
  cases hb with
  | none => rfl
  | some hb => exact hb.occurrences_eq term

theorem toList_eq : ix.bags[d]?.map Bag.toList = ix'.bags[d']?.map Bag.toList := by
  have hb := h.bags hd hd'
  generalize ix.bags[d]? = bag, ix'.bags[d']? = bag' at hb
  cases hb with
  | none => rfl
  | some hb => exact congrArg some hb.toList_eq

theorem additiveScore_eq {R : Type} (A : Arithmetic R) (terms : WordSet) (o : WordOrder) :
    ix.additiveScore A d terms o = ix'.additiveScore A d' terms o :=
  additiveScore_congr A h.documentFrequency_eq h.size_bags_eq (h.bags hd hd') terms o

theorem cosineScore_eq {R : Type} (A : Arithmetic R) (terms : WordSet) (o : WordOrder) :
    ix.cosineScore A d terms o = ix'.cosineScore A d' terms o :=
  cosineScore_congr A h.documentFrequency_eq h.size_bags_eq (h.bags hd hd') terms o

end Reordered

end Retrieval.Index
