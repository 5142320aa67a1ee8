import Retrieval.Proofs.Catalog
import Retrieval.Proofs.Index.Accepted

namespace Retrieval.Catalog

open Index (Document)

def put (c : Catalog) (t : Language × Document) : Catalog :=
  c.setIndex t.1 ((c.index t.1).addText t.2.text t.2.path).1

def putAll (c : Catalog) (ts : List (Language × Document)) : Catalog :=
  ts.foldl put c

theorem putAll_append (c : Catalog) (ts ts' : List (Language × Document)) :
    c.putAll (ts ++ ts') = (c.putAll ts).putAll ts' :=
  List.foldl_append

def documentsFor (l : Language) (ts : List (Language × Document)) : List Document :=
  ts.filterMap fun t => if t.1 = l then some t.2 else none

variable (c : Catalog) (l : Language) (t : Language × Document) (ts : List (Language × Document))

theorem documentsFor_cons_self : documentsFor t.1 (t :: ts) = t.2 :: documentsFor t.1 ts :=
  List.filterMap_cons_some (if_pos rfl)

variable {l t} in
theorem documentsFor_cons_of_ne (h : t.1 ≠ l) :
    documentsFor l (t :: ts) = documentsFor l ts :=
  List.filterMap_cons_none (if_neg h)

variable {l ts} in
theorem mem_documentsFor_iff {doc : Document} : doc ∈ documentsFor l ts ↔ (l, doc) ∈ ts := by
  rw [documentsFor, List.mem_filterMap]
  constructor
  · rintro ⟨⟨l', doc'⟩, hm, ht⟩
    split at ht
    · next hl => rwa [← hl, ← Option.some.inj ht]
    · cases ht
  · intro hm
    exact ⟨(l, doc), hm, if_pos rfl⟩

theorem index_put_self :
    (c.put t).index t.1 = ((c.index t.1).addText t.2.text t.2.path).1 := by
  rw [put, index_setIndex, if_pos rfl]

variable {l t} in
theorem index_put_of_ne (h : t.1 ≠ l) : (c.put t).index l = c.index l := by
  rw [put, index_setIndex, if_neg h]

/-- Each index gets the documents in its language, in order, and no others. -/
theorem index_putAll : (c.putAll ts).index l = ((c.index l).addTexts (documentsFor l ts)).1 := by
  induction ts generalizing c with
  | nil => rfl
  | cons t ts ih =>
    have h := ih (c.put t)
    rw [putAll, List.foldl_cons, ← putAll, h]
    by_cases hl : t.1 = l
    · subst hl
      rw [documentsFor_cons_self, Index.fst_addTexts_cons, index_put_self]
    · rw [documentsFor_cons_of_ne ts hl, index_put_of_ne c hl]

theorem index?_put_eq_none_iff : (c.put t).index? l = none ↔ c.index? l = none ∧ t.1 ≠ l := by
  rw [put, index?_setIndex]
  by_cases hl : t.1 = l
  · simp [hl]
  · simp [hl]

theorem index?_putAll_eq_none_iff :
    (c.putAll ts).index? l = none ↔ c.index? l = none ∧ documentsFor l ts = [] := by
  induction ts generalizing c with
  | nil => simp [putAll, documentsFor]
  | cons t ts ih =>
    have h := ih (c.put t)
    rw [putAll, List.foldl_cons, ← putAll, h, index?_put_eq_none_iff]
    by_cases hl : t.1 = l
    · subst hl
      simp [documentsFor_cons_self]
    · simp [documentsFor_cons_of_ne ts hl, hl]

def documents : Nat :=
  (c.stats.map fun s => s.2.documents).sum

theorem documents_eq :
    c.documents = (c.index .english).documentCount + (c.index .czech).documentCount := by
  obtain ⟨config, p, english, czech⟩ := c
  cases english <;> cases czech <;>
    simp [documents, stats, languages, Language.all, index, index?, Index.stats, Index.empty]

theorem documents_put :
    (c.put t).documents = c.documents + if (c.index t.1).accepts t.2.path then 1 else 0 := by
  have hc := (c.index t.1).documentCount_addText t.2.text t.2.path
  have hi := c.index_put_self t
  rw [documents_eq, documents_eq]
  cases hl : t.1 with
  | english =>
    have hn : t.1 ≠ .czech := by simp [hl]
    rw [hl] at hc hi
    rw [hi, index_put_of_ne c hn, hc]
    exact Nat.add_right_comm _ _ _
  | czech =>
    have hn : t.1 ≠ .english := by simp [hl]
    rw [hl] at hc hi
    rw [hi, index_put_of_ne c hn, hc]
    exact (Nat.add_assoc _ _ _).symm

end Retrieval.Catalog
