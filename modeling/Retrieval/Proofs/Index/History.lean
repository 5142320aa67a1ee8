import Retrieval.Proofs.Index.Consistency

namespace Retrieval.Index

structure Document where
  text : String
  path : String
  deriving DecidableEq, Repr

/-- Indexes texts one after the other. The texts that are not refused come with the index. -/
def addTexts (ix : Index) : List Document → Index × List Document
  | [] => (ix, [])
  | doc :: docs =>
    match ix.addText doc.text doc.path with
    | (ix, true) => ((addTexts ix docs).1, doc :: (addTexts ix docs).2)
    | (ix, false) => addTexts ix docs

/-- An index of these documents and no others. The ids number them from zero. -/
structure Records (ix : Index) (docs : List Document) : Prop where
  consistent : ix.Consistent
  nextId_eq : ix.nextId.toNat = docs.length
  occurrences_eq : ∀ d term, ix.occurrences d term =
    match docs[d.toNat]? with
    | some doc => (ix.preprocessor.terms doc.text).count term
    | none => 0

section AddTerms

variable (ix : Index) (terms : List String) (d : DocId) (path : String)

theorem occurrences_addTerms (d' : DocId) (term : String) :
    (ix.addTerms terms d path).occurrences d' term =
      ix.occurrences d' term + if d = d' then terms.count term else 0 := by
  induction terms generalizing ix with
  | nil => simp [addTerms]
  | cons t terms ih =>
    have h := ih (ix.addOccurrence t d path)
    rw [occurrences_addOccurrence] at h
    rw [addTerms, List.foldl_cons, ← addTerms, h]
    by_cases hd : d = d'
    · simp only [hd, and_true, if_true, List.count_cons, beq_iff_eq]
      omega
    · simp [hd]

theorem preprocessor_addTerms : (ix.addTerms terms d path).preprocessor = ix.preprocessor := by
  induction terms generalizing ix with
  | nil => rfl
  | cons t terms ih => exact ih (ix.addOccurrence t d path)

theorem nextId_addTerms (h : d < ix.nextId) : (ix.addTerms terms d path).nextId = ix.nextId := by
  induction terms generalizing ix with
  | nil => rfl
  | cons t terms ih =>
    have hn : (ix.addOccurrence t d path).nextId = ix.nextId := if_pos h
    rw [addTerms, List.foldl_cons, ← addTerms, ih _ (hn ▸ h), hn]

end AddTerms

theorem preprocessor_addText (ix : Index) (text path : String) :
    (ix.addText text path).1.preprocessor = ix.preprocessor := by
  by_cases h : ix.accepts path
  · rw [addText_of_accepts h]
    exact preprocessor_addTerms (ix.register path) _ _ _
  · rw [addText_of_not_accepts h]

theorem preprocessor_addTexts (ix : Index) (docs : List Document) :
    (ix.addTexts docs).1.preprocessor = ix.preprocessor := by
  induction docs generalizing ix with
  | nil => rfl
  | cons doc docs ih =>
    have hp := preprocessor_addText ix doc.text doc.path
    rw [addTexts]
    split
    · next ix' ha => rw [ih, ← hp, ha]
    · next ix' ha => rw [ih, ← hp, ha]

theorem occurrences_addText {ix : Index} {path : String} (h : ix.accepts path) (text : String)
    (d : DocId) (term : String) : (ix.addText text path).1.occurrences d term =
      ix.occurrences d term +
        if ix.nextId = d then (ix.preprocessor.terms text).count term else 0 := by
  rw [addText_of_accepts h]
  exact occurrences_addTerms (ix.register path) _ ix.nextId path d term

theorem ne_last_of_accepts {ix : Index} {path : String} (h : ix.accepts path) :
    ix.nextId ≠ DocId.last := by
  simp only [accepts, Bool.and_eq_true, bne_iff_ne] at h
  exact h.2

theorem toNat_add_one_of_ne_last {d : DocId} (h : d ≠ DocId.last) :
    (d + 1).toNat = d.toNat + 1 := by
  have hne : d.toNat ≠ DocId.last.toNat := fun he => h (UInt32.toNat_inj.1 he)
  have hl : DocId.last.toNat = 4294967295 := rfl
  have hlt := UInt32.toNat_lt d
  rw [UInt32.toNat_add, UInt32.toNat_one, Nat.mod_eq_of_lt (by omega)]

theorem records_empty (p : Terms.Preprocessor) : (empty p).Records [] where
  consistent := consistent_empty p
  nextId_eq := rfl
  occurrences_eq _ _ := by simp [occurrences, empty]

namespace Records

variable {ix : Index} {docs : List Document}

theorem addText (h : ix.Records docs) (text : String) {path : String} (ha : ix.accepts path) :
    (ix.addText text path).1.Records (docs ++ [⟨text, path⟩]) := by
  have hl := toNat_add_one_of_ne_last (ne_last_of_accepts ha)
  have hlt : ix.nextId < ix.nextId + 1 := by
    rw [UInt32.lt_iff_toNat_lt, hl]
    omega
  have hp := preprocessor_addText ix text path
  refine ⟨h.consistent.addText text path, ?_, fun d term => ?_⟩
  · rw [addText_of_accepts ha]
    have hn := nextId_addTerms (ix.register path) (ix.preprocessor.terms text) ix.nextId path hlt
    simp only [hn, List.length_append, List.length_singleton, ← h.nextId_eq]
    exact hl
  · rw [occurrences_addText ha, hp, h.occurrences_eq]
    by_cases hd : ix.nextId = d
    · subst hd
      simp [h.nextId_eq]
    · have hne : d.toNat ≠ docs.length := fun he =>
        hd (UInt32.toNat_inj.1 (h.nextId_eq.trans he.symm))
      rw [if_neg hd, Nat.add_zero]
      rcases Nat.lt_or_gt_of_ne hne with hlt | hgt
      · rw [List.getElem?_append_left hlt]
      · rw [List.getElem?_eq_none (by omega), List.getElem?_eq_none (by simp; omega)]

theorem addTexts (h : ix.Records docs) (more : List Document) :
    (ix.addTexts more).1.Records (docs ++ (ix.addTexts more).2) := by
  induction more generalizing ix docs with
  | nil => simpa [Index.addTexts] using h
  | cons doc more ih =>
    rw [Index.addTexts]
    by_cases ha : ix.accepts doc.path
    · have hr := ih (h.addText doc.text ha)
      rw [addText_of_accepts ha] at hr ⊢
      simpa [List.append_assoc] using hr
    · rw [addText_of_not_accepts ha]
      exact ih h

theorem mem_documents_iff (h : ix.Records docs) (term : String) (d : DocId) :
    d ∈ ix.documents term ↔
      ∃ doc, docs[d.toNat]? = some doc ∧ term ∈ ix.preprocessor.terms doc.text := by
  rw [h.consistent.mem_documents_iff, h.consistent.frequency_eq, h.occurrences_eq]
  cases docs[d.toNat]? with
  | none => simp
  | some doc => simp [List.count_pos_iff]

theorem mem_allDocuments_iff (h : ix.Records docs) (d : DocId) :
    d ∈ ix.allDocuments ↔
      ∃ doc, docs[d.toNat]? = some doc ∧ ix.preprocessor.terms doc.text ≠ [] := by
  rw [h.consistent.mem_allDocuments_iff]
  constructor
  · rintro ⟨term, ht⟩
    obtain ⟨doc, hd, hm⟩ := (h.mem_documents_iff term d).1 ht
    exact ⟨doc, hd, List.ne_nil_of_mem hm⟩
  · rintro ⟨doc, hd, hn⟩
    obtain ⟨term, hm⟩ := List.exists_mem_of_ne_nil _ hn
    exact ⟨term, (h.mem_documents_iff term d).2 ⟨doc, hd, hm⟩⟩

end Records

end Retrieval.Index
