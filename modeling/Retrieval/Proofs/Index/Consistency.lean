import Retrieval.Index.Basic
import Retrieval.Proofs.Index.Frequency

namespace Retrieval.Index

/-- How often a term occurs in a document, from the postings of the term. -/
def frequency (ix : Index) (term : String) (d : DocId) : Nat :=
  match ix.postings[term]? with
  | some l => l.frequency d
  | none => 0

/-- How often a term occurs in a document, from the bag of the document. -/
def occurrences (ix : Index) (d : DocId) (term : String) : Nat :=
  match ix.bags[d]? with
  | some b => b.occurrences term
  | none => 0

def totalFrequency (ix : Index) : Nat :=
  (ix.postings.toList.map fun e => e.2.total).sum

/-- What the parts of an index have in common, whatever has been counted in it. -/
structure Consistent (ix : Index) : Prop where
  postings_ne_nil : ∀ (term : String) (l : PostingList), ix.postings[term]? = some l →
    l.toList ≠ []
  postings_ascending : ∀ (term : String) (l : PostingList), ix.postings[term]? = some l →
    (l.toList.map Posting.docId).Pairwise (· < ·)
  postings_positive : ∀ (term : String) (l : PostingList), ix.postings[term]? = some l → l.Positive
  frequency_eq : ∀ term d, ix.frequency term d = ix.occurrences d term
  mem_allDocuments_iff : ∀ d, d ∈ ix.allDocuments ↔ ∃ term, d ∈ ix.documents term
  termCount_eq : ix.termCount = ix.postings.size
  tokenCount_eq : ix.tokenCount = ix.totalFrequency
  hasPath : ∀ d ∈ ix.bags, ∃ path, ix.filePath d = .ok path

theorem mem_allDocuments {ix : Index} {d : DocId} : d ∈ ix.allDocuments ↔ d ∈ ix.bags :=
  Std.TreeMap.mem_keys

theorem documents_of_some {ix : Index} {term : String} {l : PostingList}
    (h : ix.postings[term]? = some l) : ix.documents term = l.docIds := by
  simp [documents, h]

theorem documents_of_none {ix : Index} {term : String} (h : ix.postings[term]? = none) :
    ix.documents term = .empty := by
  simp [documents, h]

theorem Consistent.mem_documents_iff {ix : Index} (h : ix.Consistent) (term : String) (d : DocId) :
    d ∈ ix.documents term ↔ 0 < ix.frequency term d := by
  cases hl : ix.postings[term]? with
  | none => simp [documents_of_none hl, frequency, hl]
  | some l =>
    rw [documents_of_some hl, PostingList.mem_docIds_iff (h.postings_positive term l hl)]
    simp [frequency, hl]

theorem Consistent.documents_subset {ix : Index} (h : ix.Consistent) {term : String} {d : DocId}
    (hd : d ∈ ix.documents term) : d ∈ ix.allDocuments :=
  (h.mem_allDocuments_iff d).2 ⟨term, hd⟩

theorem filePath_eq_ok_iff {ix : Index} {d : DocId} {path : String} :
    ix.filePath d = .ok path ↔ ix.filePaths[d]? = some path := by
  rw [filePath]
  cases ix.filePaths[d]? with
  | none => simp
  | some p => simp

theorem mem_filePaths_iff {ix : Index} {d : DocId} :
    d ∈ ix.filePaths ↔ ∃ path, ix.filePath d = .ok path := by
  rw [Std.TreeMap.mem_iff_isSome_getElem?, Option.isSome_iff_exists]
  simp only [filePath_eq_ok_iff]

theorem sum_total_insert (t : Std.TreeMap String PostingList) (term : String) (l : PostingList) :
    ((t.insert term l).toList.map fun e => e.2.total).sum + (t[term]?.getD .empty).total =
      (t.toList.map fun e => e.2.total).sum + l.total := by
  have hn := (Std.TreeMap.toList_insert_perm (t := t) (k := term) (v := l)).map fun e => e.2.total
  rw [hn.sum_nat, List.map_cons, List.sum_cons]
  dsimp only
  cases h : t[term]? with
  | none =>
    have hf : t.toList.filter (fun e => ¬term == e.1) = t.toList := by
      refine List.filter_eq_self.2 fun e he => ?_
      have hm := Std.TreeMap.mem_toList_iff_getElem?_eq_some.1 he
      have hne : term ≠ e.1 := fun heq => by
        rw [← heq, h] at hm
        cases hm
      simpa using hne
    rw [hf, Option.getD_none, PostingList.total_empty]
    omega
  | some old =>
    have he : Std.TreeMap.Equiv (t.insert term old) t := by
      refine .of_forall_constGet?_eq fun k => ?_
      rw [Std.TreeMap.getElem?_insert]
      split
      · next hk => rw [← Std.LawfulEqCmp.compare_eq_iff_eq.1 hk, h]
      · rfl
    have ho := (Std.TreeMap.toList_insert_perm (t := t) (k := term) (v := old)).map fun e => e.2.total
    rw [he.toList_eq] at ho
    rw [ho.sum_nat, List.map_cons, List.sum_cons, Option.getD_some]
    dsimp only
    omega

section AddOccurrence

variable (ix : Index) (term : String) (d : DocId) (path : String)

theorem postings_addOccurrence (term' : String) :
    (ix.addOccurrence term d path).postings[term']? =
      if term = term' then some ((ix.postings[term]?.getD .empty).add d).1
      else ix.postings[term']? := by
  simp [addOccurrence, Std.TreeMap.getElem?_insert, Std.LawfulEqCmp.compare_eq_iff_eq]

theorem bags_addOccurrence (d' : DocId) :
    (ix.addOccurrence term d path).bags[d']? =
      if d = d' then some ((ix.bags[d]?.getD .empty).add term 1) else ix.bags[d']? := by
  simp [addOccurrence, Std.TreeMap.getElem?_insert, Std.LawfulEqCmp.compare_eq_iff_eq]

theorem frequency_addOccurrence (term' : String) (d' : DocId) :
    (ix.addOccurrence term d path).frequency term' d' =
      ix.frequency term' d' + if term = term' ∧ d = d' then 1 else 0 := by
  unfold frequency
  rw [postings_addOccurrence]
  by_cases ht : term = term'
  · subst ht
    cases hl : ix.postings[term]? <;> simp
  · simp [ht]

theorem occurrences_addOccurrence (term' : String) (d' : DocId) :
    (ix.addOccurrence term d path).occurrences d' term' =
      ix.occurrences d' term' + if term = term' ∧ d = d' then 1 else 0 := by
  unfold occurrences
  rw [bags_addOccurrence]
  by_cases hd : d = d'
  · subst hd
    cases hb : ix.bags[d]? <;> simp
  · simp [hd]

theorem mem_documents_addOccurrence (term' : String) (d' : DocId) :
    d' ∈ (ix.addOccurrence term d path).documents term' ↔
      (term' = term ∧ d' = d) ∨ d' ∈ ix.documents term' := by
  by_cases ht : term = term'
  · subst ht
    have hp := postings_addOccurrence ix term d path term
    rw [if_pos rfl] at hp
    rw [documents_of_some hp, PostingList.mem_docIds_add]
    cases hl : ix.postings[term]? with
    | none => simp [documents_of_none hl, PostingList.mem_docIds, PostingList.toList, PostingList.empty]
    | some l => simp [documents_of_some hl]
  · have hp := postings_addOccurrence ix term d path term'
    rw [if_neg ht] at hp
    have hd : (ix.addOccurrence term d path).documents term' = ix.documents term' := by
      unfold documents
      rw [hp]
    simp [hd, Ne.symm ht]

theorem mem_bags_addOccurrence (d' : DocId) :
    d' ∈ (ix.addOccurrence term d path).bags ↔ d' = d ∨ d' ∈ ix.bags := by
  simp [addOccurrence, Std.TreeMap.mem_insert, Std.LawfulEqCmp.compare_eq_iff_eq, eq_comm (a := d)]

theorem mem_filePaths_addOccurrence (d' : DocId) :
    d' ∈ (ix.addOccurrence term d path).filePaths ↔ d' = d ∨ d' ∈ ix.filePaths := by
  simp [addOccurrence, Std.TreeMap.mem_insertIfNew, Std.LawfulEqCmp.compare_eq_iff_eq,
    eq_comm (a := d)]

theorem totalFrequency_addOccurrence :
    (ix.addOccurrence term d path).totalFrequency = ix.totalFrequency + 1 := by
  have hs := sum_total_insert ix.postings term ((ix.postings[term]?.getD .empty).add d).1
  rw [PostingList.total_add] at hs
  simp only [totalFrequency, addOccurrence]
  omega

variable {ix}

theorem Consistent.addOccurrence (h : ix.Consistent) :
    (ix.addOccurrence term d path).Consistent where
  postings_ne_nil term' l hl := by
    rw [postings_addOccurrence] at hl
    split at hl
    · injection hl with hl
      exact hl ▸ PostingList.toList_add_ne_nil _ _
    · exact h.postings_ne_nil term' l hl
  postings_ascending _ l _ := l.ascending
  postings_positive term' l hl := by
    rw [postings_addOccurrence] at hl
    split at hl
    · injection hl with hl
      rw [← hl]
      apply PostingList.positive_add
      cases ho : ix.postings[term]? with
      | none => exact PostingList.positive_empty
      | some old => exact h.postings_positive term old ho
    · exact h.postings_positive term' l hl
  frequency_eq term' d' := by
    rw [frequency_addOccurrence, occurrences_addOccurrence, h.frequency_eq]
  mem_allDocuments_iff d' := by
    simp only [mem_documents_addOccurrence]
    rw [mem_allDocuments, mem_bags_addOccurrence, ← mem_allDocuments, h.mem_allDocuments_iff]
    constructor
    · rintro (hd | ⟨t, ht⟩)
      · exact ⟨term, .inl ⟨rfl, hd⟩⟩
      · exact ⟨t, .inr ht⟩
    · rintro ⟨t, ⟨_, hd⟩ | ht⟩
      · exact .inl hd
      · exact .inr ⟨t, ht⟩
  termCount_eq := by
    simp only [Index.addOccurrence, Std.TreeMap.size_insert, h.termCount_eq,
      Std.TreeMap.mem_iff_contains]
  tokenCount_eq := by
    rw [totalFrequency_addOccurrence, ← h.tokenCount_eq]
    rfl
  hasPath d' hd' := by
    refine mem_filePaths_iff.1 ((mem_filePaths_addOccurrence ix term d path d').2 ?_)
    rcases (mem_bags_addOccurrence ix term d path d').1 hd' with hd | hd
    · exact .inl hd
    · exact .inr (mem_filePaths_iff.2 (h.hasPath d' hd))

end AddOccurrence

def addTerms (ix : Index) (terms : List String) (d : DocId) (path : String) : Index :=
  terms.foldl (fun ix term => ix.addOccurrence term d path) ix

theorem Consistent.addTerms {ix : Index} (h : ix.Consistent) (terms : List String) (d : DocId)
    (path : String) : (ix.addTerms terms d path).Consistent := by
  induction terms generalizing ix with
  | nil => exact h
  | cons term terms ih => exact ih (h.addOccurrence term d path)

theorem Consistent.register {ix : Index} (h : ix.Consistent) (path : String) :
    (ix.register path).Consistent where
  postings_ne_nil := h.postings_ne_nil
  postings_ascending := h.postings_ascending
  postings_positive := h.postings_positive
  frequency_eq := h.frequency_eq
  mem_allDocuments_iff := h.mem_allDocuments_iff
  termCount_eq := h.termCount_eq
  tokenCount_eq := h.tokenCount_eq
  hasPath d hd := by
    apply mem_filePaths_iff.1
    have hp := mem_filePaths_iff.2 (h.hasPath d hd)
    simp [Index.register, Std.TreeMap.mem_insert, hp]

theorem addText_of_accepts {ix : Index} {path : String} (h : ix.accepts path) (text : String) :
    ix.addText text path =
      ({ (ix.register path).addTerms (ix.preprocessor.terms text) ix.nextId path with
        documentCount := ((ix.register path).addTerms (ix.preprocessor.terms text) ix.nextId
          path).documentCount + 1 }, true) := by
  rw [addText, if_pos h]
  rfl

theorem addText_of_not_accepts {ix : Index} {path : String} (h : ¬ ix.accepts path)
    (text : String) : ix.addText text path = (ix, false) := by
  rw [addText, if_neg h]

theorem Consistent.addText {ix : Index} (h : ix.Consistent) (text path : String) :
    (ix.addText text path).1.Consistent := by
  by_cases ha : ix.accepts path
  · rw [addText_of_accepts ha]
    have hc := (h.register path).addTerms (ix.preprocessor.terms text) ix.nextId path
    exact ⟨hc.postings_ne_nil, hc.postings_ascending, hc.postings_positive, hc.frequency_eq,
      hc.mem_allDocuments_iff, hc.termCount_eq, hc.tokenCount_eq, hc.hasPath⟩
  · rw [addText_of_not_accepts ha]
    exact h

theorem consistent_empty (p : Terms.Preprocessor) : (empty p).Consistent where
  postings_ne_nil _ _ hl := by simp [empty] at hl
  postings_ascending _ l _ := l.ascending
  postings_positive _ _ hl := by simp [empty] at hl
  frequency_eq _ _ := by simp [frequency, occurrences, empty]
  mem_allDocuments_iff d := by simp [mem_allDocuments, documents, empty]
  termCount_eq := by simp [empty]
  tokenCount_eq := rfl
  hasPath _ hd := by simp [empty] at hd

/-- A change of an index: one occurrence of a term in any document, or a whole text. -/
inductive Change
  | occurrence (term : String) (d : DocId) (path : String)
  | text (text path : String)

def apply (ix : Index) : Change → Index
  | .occurrence term d path => ix.addOccurrence term d path
  | .text text path => (ix.addText text path).1

def run (ix : Index) (cs : List Change) : Index :=
  cs.foldl apply ix

theorem Consistent.apply {ix : Index} (h : ix.Consistent) (c : Change) :
    (ix.apply c).Consistent := by
  cases c with
  | occurrence term d path => exact h.addOccurrence term d path
  | text text path => exact h.addText text path

theorem Consistent.run {ix : Index} (h : ix.Consistent) (cs : List Change) :
    (ix.run cs).Consistent := by
  induction cs generalizing ix with
  | nil => exact h
  | cons c cs ih => exact ih (h.apply c)

end Retrieval.Index
