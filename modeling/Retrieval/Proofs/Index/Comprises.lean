import Retrieval.Proofs.Index.Acceptance

namespace Retrieval.Index

namespace Bag

def Positive (b : Bag) : Prop :=
  ∀ term ∈ b.counts, 0 < b.occurrences term

theorem positive_empty : empty.Positive :=
  fun _ h => absurd h Std.TreeMap.not_mem_emptyc

theorem Positive.add {b : Bag} (h : b.Positive) (term : String) : (b.add term 1).Positive := by
  intro term' hm
  rw [occurrences_add]
  by_cases ht : term = term'
  · rw [if_pos ht]
    exact Nat.succ_pos _
  · have hb : term' ∈ b.counts := by
      simpa [Bag.add, Std.TreeMap.mem_insert, Std.LawfulEqCmp.compare_eq_iff_eq, ht] using hm
    exact Nat.add_pos_left (h term' hb) _

theorem Positive.getElem?_counts {b : Bag} (h : b.Positive) (term : String) :
    b.counts[term]? = if b.occurrences term = 0 then none else some (b.occurrences term) := by
  cases hc : b.counts[term]? with
  | none =>
    have ho : b.occurrences term = 0 := by rw [occurrences, hc, Option.getD_none]
    rw [if_pos ho]
  | some n =>
    have ho : b.occurrences term = n := by rw [occurrences, hc, Option.getD_some]
    have hm : term ∈ b.counts := Std.TreeMap.mem_iff_isSome_getElem?.2 (by simp [hc])
    have hp := h term hm
    rw [if_neg (Nat.ne_of_gt hp), ho]

def Equiv (b b' : Bag) : Prop :=
  b.counts.Equiv b'.counts

theorem Positive.equiv {b b' : Bag} (h : b.Positive) (h' : b'.Positive)
    (ho : ∀ term, b.occurrences term = b'.occurrences term) : b.Equiv b' := by
  refine .of_forall_constGet?_eq fun term => ?_
  rw [h.getElem?_counts, h'.getElem?_counts, ho]

namespace Equiv

variable {b b' : Bag}

theorem occurrences_eq (h : b.Equiv b') (term : String) :
    b.occurrences term = b'.occurrences term := by
  rw [occurrences, occurrences, Std.TreeMap.Equiv.getElem?_eq h]

theorem terms_eq (h : b.Equiv b') : b.terms = b'.terms :=
  Std.TreeMap.Equiv.keys_eq h

theorem toList_eq (h : b.Equiv b') : b.toList = b'.toList :=
  Std.TreeMap.Equiv.toList_eq h

end Equiv

end Bag

def PositiveBags (ix : Index) : Prop :=
  ∀ (d : DocId) (b : Bag), ix.bags[d]? = some b → b.Positive

section AddTerms

variable (ix : Index) (terms : List String) (d : DocId) (path : String)

theorem documentCount_addTerms : (ix.addTerms terms d path).documentCount = ix.documentCount := by
  induction terms generalizing ix with
  | nil => rfl
  | cons t terms ih => exact ih (ix.addOccurrence t d path)

theorem tokenCount_addTerms :
    (ix.addTerms terms d path).tokenCount = ix.tokenCount + terms.length := by
  induction terms generalizing ix with
  | nil => rfl
  | cons t terms ih =>
    have h := ih (ix.addOccurrence t d path)
    rw [addTerms, List.foldl_cons, ← addTerms, h, List.length_cons]
    exact Nat.add_right_comm _ _ _

variable {d} in
theorem filePaths_addTerms (h : d ∈ ix.filePaths) (d' : DocId) :
    (ix.addTerms terms d path).filePaths[d']? = ix.filePaths[d']? := by
  induction terms generalizing ix with
  | nil => rfl
  | cons t terms ih =>
    have ho : (ix.addOccurrence t d path).filePaths[d']? = ix.filePaths[d']? := by
      rw [addOccurrence, Std.TreeMap.getElem?_insertIfNew, if_neg fun hn => hn.2 h]
    have hm := (mem_filePaths_addOccurrence ix t d path d).2 (.inl rfl)
    rw [addTerms, List.foldl_cons, ← addTerms, ih _ hm, ho]

theorem bags_addTerms {d' : DocId} (h : d ≠ d') :
    (ix.addTerms terms d path).bags[d']? = ix.bags[d']? := by
  induction terms generalizing ix with
  | nil => rfl
  | cons t terms ih =>
    have ho : (ix.addOccurrence t d path).bags[d']? = ix.bags[d']? := by
      rw [bags_addOccurrence, if_neg h]
    rw [addTerms, List.foldl_cons, ← addTerms, ih, ho]

variable {ix} in
theorem PositiveBags.addTerms (h : ix.PositiveBags) : (ix.addTerms terms d path).PositiveBags := by
  induction terms generalizing ix with
  | nil => exact h
  | cons t terms ih =>
    refine ih fun d' b hb => ?_
    rw [bags_addOccurrence] at hb
    split at hb
    · obtain rfl := Option.some.inj hb
      apply Bag.Positive.add
      cases ho : ix.bags[d]? with
      | none => exact Bag.positive_empty
      | some old => exact h d old ho
    · exact h d' b hb

end AddTerms

theorem documentCount_addText (ix : Index) (text path : String) :
    (ix.addText text path).1.documentCount =
      ix.documentCount + if ix.accepts path then 1 else 0 := by
  by_cases h : ix.accepts path
  · have hc := documentCount_addTerms (ix.register path) (ix.preprocessor.terms text) ix.nextId path
    rw [addText_of_accepts h, if_pos h]
    exact congrArg (· + 1) hc
  · rw [addText_of_not_accepts h, if_neg h, Nat.add_zero]

theorem filePaths_addText {ix : Index} {path : String} (h : ix.accepts path) (text : String)
    (d : DocId) : (ix.addText text path).1.filePaths[d]? =
      if ix.nextId = d then some path else ix.filePaths[d]? := by
  have hm : ix.nextId ∈ (ix.register path).filePaths := by simp [register]
  have hf : (ix.addText text path).1.filePaths[d]? = (ix.register path).filePaths[d]? := by
    rw [addText_of_accepts h]
    exact filePaths_addTerms (ix.register path) _ path hm d
  rw [hf, register, Std.TreeMap.getElem?_insert]
  simp only [Std.LawfulEqCmp.compare_eq_iff_eq]

/-- An index that has these documents, each at a path of its own, and in which nothing else has been
counted. -/
structure Comprises (ix : Index) (docs : List Document) : Prop extends ix.Records docs where
  nodup_paths : (docs.map Document.path).Nodup
  mem_seenPaths_iff : ∀ path, path ∈ ix.seenPaths ↔ path ∈ docs.map Document.path
  filePaths_eq : ∀ d : DocId, ix.filePaths[d]? = docs[d.toNat]?.map Document.path
  documentCount_eq : ix.documentCount = docs.length
  tokenCount_eq_sum :
    ix.tokenCount = (docs.map fun doc => (ix.preprocessor.terms doc.text).length).sum
  positiveBags : ix.PositiveBags

theorem comprises_empty (p : Terms.Preprocessor) : (empty p).Comprises [] where
  toRecords := records_empty p
  nodup_paths := List.nodup_nil
  mem_seenPaths_iff path := by simp [empty]
  filePaths_eq d := by simp [empty]
  documentCount_eq := rfl
  tokenCount_eq_sum := rfl
  positiveBags d b h := by simp [empty] at h

namespace Comprises

variable {ix : Index} {docs : List Document}

theorem accepts_iff (h : ix.Comprises docs) {path : String} :
    ix.accepts path ↔ path ∉ docs.map Document.path ∧ docs.length ≠ DocId.last.toNat := by
  rw [Index.accepts_iff, h.mem_seenPaths_iff, ← h.nextId_eq, ne_eq, ne_eq, UInt32.toNat_inj]

theorem length_lt (h : ix.Comprises docs) : docs.length < UInt32.size := by
  have hlt := UInt32.toNat_lt ix.nextId
  rwa [h.nextId_eq] at hlt

theorem exists_toNat_eq (h : ix.Comprises docs) {i : Nat} (hi : i < docs.length) :
    ∃ d : DocId, d.toNat = i := by
  have hl := h.length_lt
  exact ⟨UInt32.ofNat i, UInt32.toNat_ofNat_of_lt' (by omega)⟩

theorem filePath_eq_ok_iff (h : ix.Comprises docs) {d : DocId} {path : String} :
    ix.filePath d = .ok path ↔ ∃ doc, docs[d.toNat]? = some doc ∧ doc.path = path := by
  rw [Index.filePath_eq_ok_iff, h.filePaths_eq, Option.map_eq_some_iff]

theorem exists_filePath_iff (h : ix.Comprises docs) {path : String} :
    (∃ d, ix.filePath d = .ok path) ↔ path ∈ docs.map Document.path := by
  rw [List.mem_map]
  constructor
  · rintro ⟨d, hd⟩
    obtain ⟨doc, hdoc, hp⟩ := h.filePath_eq_ok_iff.1 hd
    exact ⟨doc, List.mem_of_getElem? hdoc, hp⟩
  · rintro ⟨doc, hdoc, hp⟩
    obtain ⟨i, hi, rfl⟩ := List.mem_iff_getElem.1 hdoc
    obtain ⟨d, rfl⟩ := h.exists_toNat_eq hi
    exact ⟨d, h.filePath_eq_ok_iff.2 ⟨_, List.getElem?_eq_getElem hi, hp⟩⟩

theorem filePath_inj (h : ix.Comprises docs) {d d' : DocId} {path : String}
    (hd : ix.filePath d = .ok path) (hd' : ix.filePath d' = .ok path) : d = d' := by
  obtain ⟨doc, hdoc, hp⟩ := h.filePath_eq_ok_iff.1 hd
  obtain ⟨doc', hdoc', hp'⟩ := h.filePath_eq_ok_iff.1 hd'
  have hi : d.toNat < (docs.map Document.path).length := by
    rw [List.length_map]
    exact (List.getElem?_eq_some_iff.1 hdoc).1
  have he : (docs.map Document.path)[d.toNat]? = (docs.map Document.path)[d'.toNat]? := by
    rw [List.getElem?_map, List.getElem?_map, hdoc, hdoc', Option.map_some, Option.map_some, hp, hp']
  exact UInt32.toNat_inj.1 ((List.getElem?_inj hi h.nodup_paths).1 he)

theorem addText (h : ix.Comprises docs) (text : String) {path : String} (ha : ix.accepts path) :
    (ix.addText text path).1.Comprises (docs ++ [⟨text, path⟩]) where
  toRecords := h.toRecords.addText text ha
  nodup_paths := by
    have hn := (h.accepts_iff.1 ha).1
    rw [List.map_append, List.nodup_append]
    refine ⟨h.nodup_paths, List.nodup_singleton _, fun p hp q hq he => ?_⟩
    have hq : q = path := List.mem_singleton.1 hq
    exact hn (hq ▸ he ▸ hp)
  mem_seenPaths_iff path' := by
    rw [mem_seenPaths_addText ha, h.mem_seenPaths_iff, List.map_append, List.mem_append]
    simp [or_comm]
  filePaths_eq d := by
    rw [filePaths_addText ha, h.filePaths_eq]
    by_cases hd : ix.nextId = d
    · subst hd
      simp [h.nextId_eq]
    · have hne : d.toNat ≠ docs.length := fun he =>
        hd (UInt32.toNat_inj.1 (h.nextId_eq.trans he.symm))
      rw [if_neg hd]
      rcases Nat.lt_or_gt_of_ne hne with hlt | hgt
      · rw [List.getElem?_append_left hlt]
      · rw [List.getElem?_eq_none (by omega), List.getElem?_eq_none (by simp; omega)]
  documentCount_eq := by
    rw [documentCount_addText, if_pos ha, List.length_append, h.documentCount_eq]
    rfl
  tokenCount_eq_sum := by
    have hp := preprocessor_addText ix text path
    have hc : ((ix.register path).addTerms (ix.preprocessor.terms text) ix.nextId path).tokenCount =
        ix.tokenCount + (ix.preprocessor.terms text).length :=
      tokenCount_addTerms (ix.register path) (ix.preprocessor.terms text) ix.nextId path
    rw [hp, List.map_append, List.sum_append, ← h.tokenCount_eq_sum, addText_of_accepts ha]
    simpa using hc
  positiveBags := by
    have hr : (ix.register path).PositiveBags := h.positiveBags
    rw [addText_of_accepts ha]
    exact hr.addTerms _ ix.nextId path

theorem addTexts (h : ix.Comprises docs) (more : List Document) :
    (ix.addTexts more).1.Comprises (docs ++ (ix.addTexts more).2) := by
  induction more generalizing ix docs with
  | nil => simpa [Index.addTexts] using h
  | cons doc more ih =>
    rw [Index.addTexts]
    by_cases ha : ix.accepts doc.path
    · have hc := ih (h.addText doc.text ha)
      rw [addText_of_accepts ha] at hc ⊢
      simpa [List.append_assoc] using hc
    · rw [addText_of_not_accepts ha]
      exact ih h

end Comprises

end Retrieval.Index
