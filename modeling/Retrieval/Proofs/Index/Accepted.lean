import Retrieval.Proofs.Index.Comprises

namespace Retrieval.Index

section AddTexts

variable (ix : Index) (doc : Document) (docs : List Document)

theorem addTexts_cons_of_accepts {ix : Index} {doc : Document} (h : ix.accepts doc.path) :
    ix.addTexts (doc :: docs) = (((ix.addText doc.text doc.path).1.addTexts docs).1,
      doc :: ((ix.addText doc.text doc.path).1.addTexts docs).2) := by
  rw [addTexts, addText_of_accepts h]

theorem addTexts_cons_of_not_accepts {ix : Index} {doc : Document} (h : ¬ix.accepts doc.path) :
    ix.addTexts (doc :: docs) = ix.addTexts docs := by
  rw [addTexts, addText_of_not_accepts h]

theorem fst_addTexts_cons :
    (ix.addTexts (doc :: docs)).1 = ((ix.addText doc.text doc.path).1.addTexts docs).1 := by
  by_cases h : ix.accepts doc.path
  · rw [addTexts_cons_of_accepts docs h]
  · rw [addTexts_cons_of_not_accepts docs h, addText_of_not_accepts h]

theorem snd_addTexts_sublist : (ix.addTexts docs).2.Sublist docs := by
  induction docs generalizing ix with
  | nil => exact .slnil
  | cons doc docs ih =>
    by_cases h : ix.accepts doc.path
    · rw [addTexts_cons_of_accepts docs h]
      exact (ih _).cons_cons doc
    · rw [addTexts_cons_of_not_accepts docs h]
      exact (ih ix).cons doc

variable {ix docs} in
theorem not_accepts_addTexts {path : String} (h : ¬ix.accepts path) :
    ¬(ix.addTexts docs).1.accepts path := by
  induction docs generalizing ix with
  | nil => exact h
  | cons doc docs ih =>
    rw [fst_addTexts_cons]
    exact ih (not_accepts_addText h doc.text doc.path)

variable {doc docs} in
theorem not_accepts_addTexts_of_mem (hd : doc ∈ docs) : ¬(ix.addTexts docs).1.accepts doc.path := by
  obtain ⟨as, bs, rfl⟩ := List.append_of_mem hd
  clear hd
  induction as generalizing ix with
  | nil =>
    rw [List.nil_append, fst_addTexts_cons]
    exact not_accepts_addTexts (ix.not_accepts_addText_self doc.text doc.path)
  | cons a as ih =>
    rw [List.cons_append, fst_addTexts_cons]
    exact ih _

end AddTexts

namespace Comprises

variable {ix : Index} {docs more more' : List Document}

/-- As long as ids are left, texts are refused for their paths only. -/
theorem snd_addTexts_eq_self (h : ix.Comprises docs)
    (hn : ((docs ++ more).map Document.path).Nodup)
    (hl : (docs ++ more).length ≤ DocId.last.toNat) : (ix.addTexts more).2 = more := by
  induction more generalizing ix docs with
  | nil => rfl
  | cons doc more ih =>
    rw [List.append_cons] at hn hl
    have hp : doc.path ∉ docs.map Document.path := by
      rw [List.map_append, List.map_append, List.append_assoc, List.nodup_append] at hn
      exact fun hm => hn.2.2 _ hm _ (by simp) rfl
    have ha : ix.accepts doc.path := h.accepts_iff.2 ⟨hp, by simp at hl; omega⟩
    rw [addTexts_cons_of_accepts more ha, ih (h.addText doc.text ha) hn hl]

theorem path_mem_of_mem (h : ix.Comprises docs)
    (hl : (docs ++ (ix.addTexts more).2).length < DocId.last.toNat) {doc : Document}
    (hd : doc ∈ more) : doc.path ∈ (docs ++ (ix.addTexts more).2).map Document.path := by
  by_contra hn
  exact ix.not_accepts_addTexts_of_mem hd
    ((h.addTexts more).accepts_iff.2 ⟨hn, Nat.ne_of_lt hl⟩)

theorem path_notMem_of_mem_snd (h : ix.Comprises docs) {doc : Document}
    (hd : doc ∈ (ix.addTexts more).2) : doc.path ∉ docs.map Document.path := by
  have hn := (h.addTexts more).nodup_paths
  rw [List.map_append, List.nodup_append] at hn
  exact fun hm => hn.2.2 _ hm _ (List.mem_map_of_mem hd) rfl

theorem nodup_snd_addTexts (h : ix.Comprises docs) : (ix.addTexts more).2.Nodup := by
  have hn := (h.addTexts more).nodup_paths
  rw [List.map_append, List.nodup_append] at hn
  exact .of_map _ hn.2.1

theorem mem_snd_addTexts_iff (h : ix.Comprises docs)
    (ht : ∀ doc ∈ more, ∀ doc' ∈ more, doc.path = doc'.path → doc = doc')
    (hl : (docs ++ (ix.addTexts more).2).length < DocId.last.toNat) {doc : Document} :
    doc ∈ (ix.addTexts more).2 ↔ doc ∈ more ∧ doc.path ∉ docs.map Document.path := by
  have hs := ix.snd_addTexts_sublist more
  constructor
  · intro hd
    exact ⟨hs.subset hd, h.path_notMem_of_mem_snd hd⟩
  · rintro ⟨hd, hn⟩
    have hm := h.path_mem_of_mem hl hd
    rw [List.map_append, List.mem_append] at hm
    obtain ⟨doc', hd', hp⟩ := List.mem_map.1 (hm.resolve_left hn)
    rwa [← ht doc' (hs.subset hd') doc hd hp]

/-- Which texts are taken does not depend on the order in which they come. -/
theorem snd_addTexts_perm (h : ix.Comprises docs) (hp : more.Perm more')
    (ht : ∀ doc ∈ more, ∀ doc' ∈ more, doc.path = doc'.path → doc = doc')
    (hl : (docs ++ (ix.addTexts more).2).length < DocId.last.toNat) :
    (ix.addTexts more).2.Perm (ix.addTexts more').2 := by
  have ht' : ∀ doc ∈ more', ∀ doc' ∈ more', doc.path = doc'.path → doc = doc' :=
    fun doc hd doc' hd' => ht doc (hp.mem_iff.2 hd) doc' (hp.mem_iff.2 hd')
  -- in the other order no more texts are taken, so that ids do not run out there either
  have hs : (ix.addTexts more').2 ⊆ (ix.addTexts more).2 := fun doc hd =>
    (h.mem_snd_addTexts_iff ht hl).2
      ⟨hp.mem_iff.2 ((ix.snd_addTexts_sublist more').subset hd), h.path_notMem_of_mem_snd hd⟩
  have hle := (List.subperm_of_subset h.nodup_snd_addTexts hs).length_le
  have hl' : (docs ++ (ix.addTexts more').2).length < DocId.last.toNat := by
    rw [List.length_append] at hl ⊢
    omega
  refine (List.perm_ext_iff_of_nodup h.nodup_snd_addTexts h.nodup_snd_addTexts).2 fun doc => ?_
  rw [h.mem_snd_addTexts_iff ht hl, h.mem_snd_addTexts_iff ht' hl', hp.mem_iff]

end Comprises

end Retrieval.Index
