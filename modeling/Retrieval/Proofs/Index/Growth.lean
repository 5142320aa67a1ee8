import Retrieval.Proofs.Index.Comprises

namespace Retrieval.Index

namespace DocId

variable {d d' : DocId}

theorem le_last (d : DocId) : d ≤ last := by
  have hd := UInt32.toNat_lt d
  have hl : last.toNat = 4294967295 := rfl
  rw [UInt32.le_iff_toNat_le]
  omega

theorem next_last : next last = last :=
  if_pos rfl

theorem next_of_ne_last (h : d ≠ last) : next d = d + 1 :=
  if_neg h

theorem lt_next (h : d ≠ last) : d < next d := by
  rw [next_of_ne_last h, UInt32.lt_iff_toNat_lt, toNat_add_one_of_ne_last h]
  omega

theorem le_next (d : DocId) : d ≤ next d := by
  by_cases h : d = last
  · rw [h, next_last]
    exact UInt32.le_refl last
  · exact UInt32.le_of_lt (lt_next h)

theorem next_le_of_lt (h : d < d') : next d ≤ d' := by
  have hd : d ≠ last := by
    rintro rfl
    exact UInt32.not_lt.2 d'.le_last h
  rw [next_of_ne_last hd, UInt32.le_iff_toNat_le, toNat_add_one_of_ne_last hd]
  rw [UInt32.lt_iff_toNat_lt] at h
  omega

end DocId

/-- The next id is the one after the greatest that is in use, or zero. After the greatest of all it
is that one again. -/
structure Frontier (ix : Index) : Prop where
  next_le : ∀ d ∈ ix.filePaths, DocId.next d ≤ ix.nextId
  exists_next_eq : ix.nextId = 0 ∨ ∃ d ∈ ix.filePaths, DocId.next d = ix.nextId

namespace Frontier

variable {ix ix' : Index}

theorem nextId_notMem (h : ix.Frontier) (hn : ix.nextId ≠ DocId.last) :
    ix.nextId ∉ ix.filePaths := by
  intro hm
  exact UInt32.not_lt.2 (h.next_le ix.nextId hm) (DocId.lt_next hn)

theorem nextId_eq_last_iff (h : ix.Frontier) :
    ix.nextId = DocId.last ↔ ∃ d ∈ ix.filePaths, DocId.next d = DocId.last := by
  constructor
  · intro hn
    have hz : ix.nextId ≠ 0 := by
      rw [hn]
      decide
    rw [← hn]
    exact h.exists_next_eq.resolve_left hz
  · rintro ⟨d, hd, hn⟩
    exact UInt32.le_antisymm ix.nextId.le_last (hn ▸ h.next_le d hd)

theorem extend (h : ix.Frontier) {d : DocId}
    (hp : ∀ d', d' ∈ ix'.filePaths ↔ d' = d ∨ d' ∈ ix.filePaths)
    (hn : ix'.nextId = if d < ix.nextId then ix.nextId else DocId.next d) : ix'.Frontier := by
  by_cases hd : d < ix.nextId
  · rw [if_pos hd] at hn
    constructor
    · intro d' hd'
      rw [hn]
      rcases (hp d').1 hd' with rfl | hd'
      · exact DocId.next_le_of_lt hd
      · exact h.next_le d' hd'
    · rw [hn]
      exact h.exists_next_eq.imp_right fun ⟨d', hd', he⟩ => ⟨d', (hp d').2 (.inr hd'), he⟩
  · rw [if_neg hd] at hn
    constructor
    · intro d' hd'
      rw [hn]
      rcases (hp d').1 hd' with rfl | hd'
      · exact UInt32.le_refl _
      · have hle := h.next_le d' hd'
        exact UInt32.le_trans hle (UInt32.le_trans (UInt32.not_lt.1 hd) d.le_next)
    · exact .inr ⟨d, (hp d).2 (.inl rfl), hn.symm⟩

theorem addOccurrence (h : ix.Frontier) (term : String) (d : DocId) (path : String) :
    (ix.addOccurrence term d path).Frontier :=
  h.extend (mem_filePaths_addOccurrence ix term d path) rfl

theorem addTerms (h : ix.Frontier) (terms : List String) (d : DocId) (path : String) :
    (ix.addTerms terms d path).Frontier := by
  induction terms generalizing ix with
  | nil => exact h
  | cons term terms ih => exact ih (h.addOccurrence term d path)

theorem register (h : ix.Frontier) (hn : ix.nextId ≠ DocId.last) (path : String) :
    (ix.register path).Frontier := by
  apply h.extend (d := ix.nextId)
  · intro d
    simp [Index.register, Std.TreeMap.mem_insert, Std.LawfulEqCmp.compare_eq_iff_eq,
      eq_comm (a := ix.nextId)]
  · rw [if_neg (UInt32.lt_irrefl _), DocId.next_of_ne_last hn]
    rfl

theorem addText (h : ix.Frontier) (text path : String) : (ix.addText text path).1.Frontier := by
  by_cases ha : ix.accepts path
  · have hr := (h.register (ne_last_of_accepts ha) path).addTerms (ix.preprocessor.terms text)
      ix.nextId path
    rw [addText_of_accepts ha]
    exact ⟨hr.next_le, hr.exists_next_eq⟩
  · rwa [addText_of_not_accepts ha]

theorem apply (h : ix.Frontier) (c : Change) : (ix.apply c).Frontier := by
  cases c with
  | occurrence term d path => exact h.addOccurrence term d path
  | text text path => exact h.addText text path

theorem run (h : ix.Frontier) (cs : List Change) : (ix.run cs).Frontier := by
  induction cs generalizing ix with
  | nil => exact h
  | cons c cs ih => exact ih (h.apply c)

end Frontier

theorem frontier_empty (p : Terms.Preprocessor) : (empty p).Frontier where
  next_le d hd := by simp [empty] at hd
  exists_next_eq := .inl rfl

/-- What stays as more is put into an index: paths are kept and nothing is counted down. -/
structure Grows (ix ix' : Index) : Prop where
  filePath_eq : ∀ d path, ix.filePath d = .ok path → ix'.filePath d = .ok path
  nextId_le : ix.nextId ≤ ix'.nextId
  documentCount_le : ix.documentCount ≤ ix'.documentCount
  termCount_le : ix.termCount ≤ ix'.termCount
  tokenCount_le : ix.tokenCount ≤ ix'.tokenCount

namespace Grows

variable {ix ix' ix'' : Index}

theorem refl (ix : Index) : Grows ix ix :=
  ⟨fun _ _ h => h, UInt32.le_refl _, Nat.le_refl _, Nat.le_refl _, Nat.le_refl _⟩

theorem trans (h : Grows ix ix') (h' : Grows ix' ix'') : Grows ix ix'' where
  filePath_eq d path hd := h'.filePath_eq d path (h.filePath_eq d path hd)
  nextId_le := UInt32.le_trans h.nextId_le h'.nextId_le
  documentCount_le := Nat.le_trans h.documentCount_le h'.documentCount_le
  termCount_le := Nat.le_trans h.termCount_le h'.termCount_le
  tokenCount_le := Nat.le_trans h.tokenCount_le h'.tokenCount_le

theorem addOccurrence (ix : Index) (term : String) (d : DocId) (path : String) :
    Grows ix (ix.addOccurrence term d path) where
  filePath_eq d' path' h := by
    rw [filePath_eq_ok_iff] at h ⊢
    have hm : d' ∈ ix.filePaths := Std.TreeMap.mem_iff_isSome_getElem?.2 (by simp [h])
    rw [Index.addOccurrence, Std.TreeMap.getElem?_insertIfNew, if_neg, h]
    rintro ⟨he, hn⟩
    rw [Std.LawfulEqCmp.compare_eq_iff_eq] at he
    exact hn (he ▸ hm)
  nextId_le := by
    simp only [Index.addOccurrence]
    split
    · exact UInt32.le_refl _
    · next hd => exact UInt32.le_trans (UInt32.not_lt.1 hd) d.le_next
  documentCount_le := Nat.le_refl _
  termCount_le := by
    simp only [Index.addOccurrence]
    split
    · exact Nat.le_refl _
    · exact Nat.le_succ _
  tokenCount_le := Nat.le_succ _

theorem addTerms (ix : Index) (terms : List String) (d : DocId) (path : String) :
    Grows ix (ix.addTerms terms d path) := by
  induction terms generalizing ix with
  | nil => exact refl ix
  | cons term terms ih => exact (addOccurrence ix term d path).trans (ih _)

theorem register (h : ix.Frontier) (hn : ix.nextId ≠ DocId.last) (path : String) :
    Grows ix (ix.register path) where
  filePath_eq d path' hd := by
    -- here the path of an id is overwritten: it must not have had one
    have hne : ix.nextId ≠ d := by
      rintro rfl
      exact h.nextId_notMem hn (mem_filePaths_iff.2 ⟨path', hd⟩)
    rw [filePath_eq_ok_iff] at hd ⊢
    rw [Index.register, Std.TreeMap.getElem?_insert, if_neg, hd]
    rwa [Std.LawfulEqCmp.compare_eq_iff_eq]
  nextId_le := by
    have hl := ix.nextId.le_next
    rwa [DocId.next_of_ne_last hn] at hl
  documentCount_le := Nat.le_refl _
  termCount_le := Nat.le_refl _
  tokenCount_le := Nat.le_refl _

theorem addText (h : ix.Frontier) (text path : String) : Grows ix (ix.addText text path).1 := by
  by_cases ha : ix.accepts path
  · have hr := (register h (ne_last_of_accepts ha) path).trans
      (addTerms (ix.register path) (ix.preprocessor.terms text) ix.nextId path)
    rw [addText_of_accepts ha]
    exact ⟨hr.filePath_eq, hr.nextId_le, Nat.le_succ_of_le hr.documentCount_le, hr.termCount_le,
      hr.tokenCount_le⟩
  · rw [addText_of_not_accepts ha]
    exact refl ix

theorem apply (h : ix.Frontier) (c : Change) : Grows ix (ix.apply c) := by
  cases c with
  | occurrence term d path => exact addOccurrence ix term d path
  | text text path => exact addText h text path

theorem run (h : ix.Frontier) (cs : List Change) : Grows ix (ix.run cs) := by
  induction cs generalizing ix with
  | nil => exact refl ix
  | cons c cs ih => exact (apply h c).trans (ih (h.apply c))

end Grows

end Retrieval.Index
