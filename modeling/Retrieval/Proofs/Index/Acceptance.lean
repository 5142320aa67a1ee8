import Retrieval.Proofs.Index.History

namespace Retrieval.Index

theorem accepts_iff {ix : Index} {path : String} :
    ix.accepts path ↔ path ∉ ix.seenPaths ∧ ix.nextId ≠ DocId.last := by
  simp [accepts]

theorem addText_snd (ix : Index) (text path : String) :
    (ix.addText text path).2 = ix.accepts path := by
  by_cases h : ix.accepts path
  · rw [addText_of_accepts h, h]
  · rw [addText_of_not_accepts h, Bool.eq_false_iff.2 h]

theorem accepts_empty (p : Terms.Preprocessor) (path : String) : (empty p).accepts path := by
  have h : (0 : DocId) ≠ DocId.last := by decide
  exact accepts_iff.2 ⟨Std.TreeSet.not_mem_emptyc, h⟩

theorem seenPaths_addTerms (ix : Index) (terms : List String) (d : DocId) (path : String) :
    (ix.addTerms terms d path).seenPaths = ix.seenPaths := by
  induction terms generalizing ix with
  | nil => rfl
  | cons t terms ih => exact ih (ix.addOccurrence t d path)

theorem mem_seenPaths_addText {ix : Index} {path : String} (h : ix.accepts path) (text : String)
    {path' : String} :
    path' ∈ (ix.addText text path).1.seenPaths ↔ path' = path ∨ path' ∈ ix.seenPaths := by
  rw [addText_of_accepts h]
  simp [seenPaths_addTerms, register, Std.TreeSet.mem_insert, Std.LawfulEqCmp.compare_eq_iff_eq,
    eq_comm (a := path)]

theorem not_accepts_addText_self (ix : Index) (text path : String) :
    ¬(ix.addText text path).1.accepts path := by
  by_cases h : ix.accepts path
  · intro ha
    exact (accepts_iff.1 ha).1 ((mem_seenPaths_addText h text).2 (.inl rfl))
  · rwa [addText_of_not_accepts h]

/-- A path that is refused once is refused from then on: it has been seen, or no id is left. -/
theorem not_accepts_addText {ix : Index} {path : String} (h : ¬ix.accepts path)
    (text path' : String) : ¬(ix.addText text path').1.accepts path := by
  by_cases h' : ix.accepts path'
  · have hs : path ∈ ix.seenPaths := by
      by_contra hn
      exact h (accepts_iff.2 ⟨hn, (accepts_iff.1 h').2⟩)
    intro ha
    exact (accepts_iff.1 ha).1 ((mem_seenPaths_addText h' text).2 (.inr hs))
  · rwa [addText_of_not_accepts h']

end Retrieval.Index
