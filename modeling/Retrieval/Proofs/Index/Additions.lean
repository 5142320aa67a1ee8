import Mathlib.Data.List.Dedup
import Retrieval.Proofs.Index.Frequency

namespace Retrieval.Index.PostingList

variable {l l' : PostingList} {ids ids' : List DocId} {d : DocId}

theorem add_snd_iff : (l.add d).2 ↔ d ∉ l.docIds := by
  have hc := counted_add l d
  rw [mem_docIds]
  generalize (l.add d).1.toList = qs, (l.add d).2 = b at hc
  generalize l.toList = ps at hc ⊢
  cases hc with
  | again as p bs h => simpa using ⟨p, .inr (.inl rfl), h⟩
  | first as bs h => simpa using h

theorem toList_eq_map (l : PostingList) :
    l.toList = l.docIds.toList.map fun d => ⟨d, l.frequency d⟩ := by
  have hp : ∀ p ∈ l.toList, (⟨p.docId, l.frequency p.docId⟩ : Posting) = id p := by
    intro p hp
    rw [frequency_of_mem hp, id_eq]
  have hm : l.toList.map (fun p => ⟨p.docId, l.frequency p.docId⟩) = l.toList := by
    rw [List.map_congr_left hp, List.map_id]
  change l.toList = (l.toList.map Posting.docId).map _
  rw [List.map_map]
  exact hm.symm

theorem ext_frequency (hd : ∀ d, d ∈ l.docIds ↔ d ∈ l'.docIds)
    (hf : ∀ d, l.frequency d = l'.frequency d) : l = l' := by
  have hl : l.toList = l'.toList := by
    rw [l.toList_eq_map, l'.toList_eq_map, DocList.ext_mem hd]
    simp only [hf]
  cases l
  cases l'
  simpa [toList] using hl

def addAll (l : PostingList) (ids : List DocId) : PostingList :=
  ids.foldl (fun l d => (l.add d).1) l

theorem addAll_cons (l : PostingList) (d : DocId) (ids : List DocId) :
    l.addAll (d :: ids) = (l.add d).1.addAll ids := rfl

@[simp]
theorem frequency_addAll (l : PostingList) (ids : List DocId) (d : DocId) :
    (l.addAll ids).frequency d = l.frequency d + ids.count d := by
  induction ids generalizing l with
  | nil => rfl
  | cons d' ids ih =>
    rw [addAll_cons, ih, frequency_add, List.count_cons]
    simp only [beq_iff_eq]
    omega

@[simp]
theorem mem_docIds_addAll : d ∈ (l.addAll ids).docIds ↔ d ∈ ids ∨ d ∈ l.docIds := by
  induction ids generalizing l with
  | nil => simp [addAll]
  | cons d' ids ih =>
    rw [addAll_cons, ih, mem_docIds_add, List.mem_cons]
    tauto

theorem addAll_eq_of_perm (l : PostingList) (h : ids.Perm ids') : l.addAll ids = l.addAll ids' := by
  apply ext_frequency
  · intro d
    rw [mem_docIds_addAll, mem_docIds_addAll, h.mem_iff]
  · intro d
    rw [frequency_addAll, frequency_addAll, h.count_eq]

@[simp]
theorem not_mem_docIds_empty (d : DocId) : d ∉ empty.docIds :=
  List.not_mem_nil

def sorted (ids : List DocId) : List DocId :=
  ids.dedup.mergeSort

theorem pairwise_sorted (ids : List DocId) : (sorted ids).Pairwise (· < ·) := by
  have hs : (sorted ids).Pairwise (· ≤ ·) := List.pairwise_mergeSort' (· ≤ ·) ids.dedup
  have hn : (sorted ids).Nodup := (List.mergeSort_perm _ _).nodup_iff.2 ids.nodup_dedup
  exact hs.imp₂ (fun a b => UInt32.lt_of_le_of_ne) hn

theorem mem_sorted : d ∈ sorted ids ↔ d ∈ ids := by
  rw [sorted, List.mem_mergeSort, List.mem_dedup]

theorem docIds_addAll_empty (ids : List DocId) : (empty.addAll ids).docIds.toList = sorted ids := by
  apply (empty.addAll ids).docIds.ascending.eq_of_mem_iff (pairwise_sorted ids)
  intro d
  rw [mem_sorted]
  exact mem_docIds_addAll.trans (or_iff_left (not_mem_docIds_empty d))

theorem toList_addAll_empty (ids : List DocId) :
    (empty.addAll ids).toList = (sorted ids).map fun d => ⟨d, ids.count d⟩ := by
  rw [toList_eq_map, docIds_addAll_empty]
  simp

/-- What additions in any order and with any repetitions make of an empty list. -/
structure TalliesAdditions (ids : List DocId) : Prop where
  toList_eq : (empty.addAll ids).toList = (sorted ids).map fun d => ⟨d, ids.count d⟩
  ascending : (sorted ids).Pairwise (· < ·)
  mem_sorted_iff : ∀ d, d ∈ sorted ids ↔ d ∈ ids
  docIds_eq : (empty.addAll ids).docIds.toList = sorted ids
  frequency_eq : ∀ d, (empty.addAll ids).frequency d = ids.count d
  add_snd_iff : ∀ before d after, ids = before ++ d :: after →
    (((empty.addAll before).add d).2 ↔ d ∉ before)
  addAll_eq_of_perm : ∀ ids', ids.Perm ids' → empty.addAll ids = empty.addAll ids'

theorem talliesAdditions (ids : List DocId) : TalliesAdditions ids where
  toList_eq := toList_addAll_empty ids
  ascending := pairwise_sorted ids
  mem_sorted_iff d := mem_sorted
  docIds_eq := docIds_addAll_empty ids
  frequency_eq d := by simp
  add_snd_iff before d after _ := by simp [PostingList.add_snd_iff]
  addAll_eq_of_perm ids' h := empty.addAll_eq_of_perm h

end Retrieval.Index.PostingList
