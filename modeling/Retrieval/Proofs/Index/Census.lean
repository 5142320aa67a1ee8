import Mathlib.Data.List.Dedup
import Retrieval.Index.Weight
import Retrieval.Proofs.Index.Comprises

namespace Retrieval.Index

theorem length_eq_countP {ids : List DocId} {docs : List Document} {P : Document → Prop}
    [DecidablePred P] (hn : ids.Nodup)
    (h : ∀ d, d ∈ ids ↔ ∃ doc, docs[d.toNat]? = some doc ∧ P doc)
    (hl : docs.length < UInt32.size) : ids.length = docs.countP fun doc => P doc := by
  let hits := docs.zipIdx.filter fun x => P x.1
  have hi : (ids.map UInt32.toNat).Nodup := hn.map fun _ _ => UInt32.toNat_inj.1
  have hz : (docs.zipIdx.map Prod.snd).Nodup := by
    rw [List.zipIdx_map_snd]
    exact List.nodup_range' _
  have hh : (hits.map Prod.snd).Nodup := hz.sublist (List.filter_sublist.map Prod.snd)
  have hp : (ids.map UInt32.toNat).Perm (hits.map Prod.snd) := by
    refine (List.perm_ext_iff_of_nodup hi hh).2 fun i => ?_
    simp only [hits, List.mem_map, List.mem_filter, List.mem_zipIdx_iff_getElem?, decide_eq_true_eq]
    constructor
    · rintro ⟨d, hd, rfl⟩
      obtain ⟨doc, hdoc, hP⟩ := (h d).1 hd
      exact ⟨(doc, d.toNat), ⟨hdoc, hP⟩, rfl⟩
    · rintro ⟨⟨doc, i⟩, ⟨hdoc, hP⟩, rfl⟩
      have hlt : i < docs.length := (List.getElem?_eq_some_iff.1 hdoc).1
      have hd : (UInt32.ofNat i).toNat = i := UInt32.toNat_ofNat_of_lt' (by omega)
      exact ⟨UInt32.ofNat i, (h _).2 ⟨doc, by rwa [hd], hP⟩, hd⟩
  calc
    ids.length = hits.length := by simpa using hp.length_eq
    _ = docs.zipIdx.countP ((fun doc => P doc) ∘ Prod.fst) := List.countP_eq_length_filter.symm
    _ = docs.countP fun doc => P doc := by rw [← List.countP_map, List.zipIdx_map_fst]

theorem documentFrequency_eq_length (ix : Index) (term : String) :
    ix.documentFrequency term = (ix.documents term).toList.length := by
  rw [documentFrequency, documents]
  cases ix.postings[term]? with
  | none => rfl
  | some l => simp [PostingList.size, PostingList.docIds, PostingList.toList, DocList.ofAscending,
      DocList.toList]

theorem size_bags_eq_length (ix : Index) : ix.bags.size = ix.allDocuments.toList.length :=
  Std.TreeMap.length_keys.symm

namespace Comprises

variable {ix : Index} {docs : List Document}

/-- The documents that have a term are as many as the texts that it is in. -/
theorem documentFrequency_eq_countP (h : ix.Comprises docs) (term : String) :
    ix.documentFrequency term =
      docs.countP fun doc => decide (term ∈ ix.preprocessor.terms doc.text) := by
  rw [documentFrequency_eq_length]
  exact length_eq_countP (ix.documents term).nodup_toList (h.mem_documents_iff term) h.length_lt

/-- Texts without terms have no bag. -/
theorem size_bags_eq_countP (h : ix.Comprises docs) :
    ix.bags.size = docs.countP fun doc => decide (ix.preprocessor.terms doc.text ≠ []) := by
  rw [size_bags_eq_length]
  exact length_eq_countP ix.allDocuments.nodup_toList h.mem_allDocuments_iff h.length_lt

theorem mem_postings_iff (h : ix.Comprises docs) (term : String) :
    term ∈ ix.postings ↔ ∃ doc ∈ docs, term ∈ ix.preprocessor.terms doc.text := by
  constructor
  · intro hm
    obtain ⟨l, hl⟩ := Option.isSome_iff_exists.1 (Std.TreeMap.mem_iff_isSome_getElem?.1 hm)
    obtain ⟨p, hp⟩ := List.exists_mem_of_ne_nil _ (h.consistent.postings_ne_nil term l hl)
    have hd : p.docId ∈ ix.documents term := by
      rw [documents_of_some hl]
      exact PostingList.mem_docIds.2 ⟨p, hp, rfl⟩
    obtain ⟨doc, hdoc, ht⟩ := (h.mem_documents_iff term p.docId).1 hd
    exact ⟨doc, List.mem_of_getElem? hdoc, ht⟩
  · rintro ⟨doc, hdoc, ht⟩
    obtain ⟨i, hlt, rfl⟩ := List.mem_iff_getElem.1 hdoc
    obtain ⟨d, rfl⟩ := h.exists_toNat_eq hlt
    have hd : d ∈ ix.documents term :=
      (h.mem_documents_iff term d).2 ⟨_, List.getElem?_eq_getElem hlt, ht⟩
    refine Std.TreeMap.mem_iff_isSome_getElem?.2 (Option.isSome_iff_ne_none.2 fun hn => ?_)
    rw [documents_of_none hn] at hd
    exact DocList.not_mem_empty _ hd

theorem termCount_eq_length_dedup (h : ix.Comprises docs) : ix.termCount =
    (docs.flatMap fun doc => ix.preprocessor.terms doc.text).dedup.length := by
  rw [h.consistent.termCount_eq, ← Std.TreeMap.length_keys]
  refine ((List.perm_ext_iff_of_nodup Std.TreeMap.nodup_keys (List.nodup_dedup _)).2
    fun term => ?_).length_eq
  rw [Std.TreeMap.mem_keys, h.mem_postings_iff, List.mem_dedup, List.mem_flatMap]

end Comprises

end Retrieval.Index
