import Retrieval.Catalog
import Retrieval.Proofs.Index.Acceptance

namespace Retrieval.Catalog

theorem index?_setIndex (c : Catalog) (l : Language) (ix : Index) (l' : Language) :
    (c.setIndex l ix).index? l' = if l = l' then some ix else c.index? l' := by
  cases l <;> cases l' <;> rfl

theorem config_setIndex (c : Catalog) (l : Language) (ix : Index) :
    (c.setIndex l ix).config = c.config := by
  cases l <;> rfl

theorem files_setIndex (c : Catalog) (l : Language) (ix : Index) :
    (c.setIndex l ix).files = c.files := by
  cases l <;> rfl

theorem on_of_files_eq {c : Catalog} {files : Storage} (h : c.files = files) : c.on files = c := by
  rw [← h]
  rfl

theorem index_setIndex (c : Catalog) (l : Language) (ix : Index) (l' : Language) :
    (c.setIndex l ix).index l' = if l = l' then ix else c.index l' := by
  rw [index, index?_setIndex, config_setIndex, files_setIndex]
  split <;> rfl

theorem setIndex_index_of_some {c : Catalog} {l : Language} {ix : Index}
    (h : c.index? l = some ix) : c.setIndex l (c.index l) = c := by
  rw [index, h, Option.getD_some]
  cases l with
  | english =>
    change c.english = some ix at h
    rw [setIndex, ← h]
  | czech =>
    change c.czech = some ix at h
    rw [setIndex, ← h]

theorem index_addArticle (c : Catalog) (l : Language) (a : Article) (path : String)
    (l' : Language) : (c.addArticle l a path).1.index l' =
      if l = l' then ((c.index l).addText a.indexableText path).1 else c.index l' :=
  index_setIndex c l _ l'

theorem addArticle_snd (c : Catalog) (l : Language) (a : Article) (path : String) :
    (c.addArticle l a path).2 = (c.index l).accepts path :=
  (c.index l).addText_snd a.indexableText path

/-- A refused article does not even make an index, since an empty one would have taken it. -/
theorem addArticle_of_not_accepts {c : Catalog} {l : Language} {path : String}
    (h : ¬(c.index l).accepts path) (a : Article) : (c.addArticle l a path).1 = c := by
  change c.setIndex l ((c.index l).addText a.indexableText path).1 = c
  rw [Index.addText_of_not_accepts h]
  cases hi : c.index? l with
  | none =>
    rw [index, hi] at h
    exact absurd (Index.accepts_empty _ path) h
  | some ix => exact setIndex_index_of_some hi

end Retrieval.Catalog
