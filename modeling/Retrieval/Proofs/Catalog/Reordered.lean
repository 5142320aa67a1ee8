import Retrieval.Proofs.Catalog.Routing
import Retrieval.Proofs.Index.Reordered

namespace Retrieval.Catalog

open Index (Document)

variable {c c' : Catalog} {l : Language} {ts ts' : List (Language × Document)}

/-- A catalog that had no index at first, and to which articles have been added. -/
inductive Built : Catalog → Prop
  | empty {c : Catalog} (h : ∀ l, c.index? l = none) : Built c
  | addArticle {c : Catalog} (h : Built c) (l : Language) (a : Article) (path : String) :
      Built (c.addArticle l a path).1

theorem Built.exists_comprises (h : Built c) (l : Language) :
    ∃ docs, (c.index l).Comprises docs := by
  induction h with
  | @empty c h =>
    have hi : c.index l = .empty (c.config.preprocessor c.files l) := by rw [index, h l, Option.getD_none]
    exact ⟨[], hi ▸ Index.comprises_empty _⟩
  | @addArticle c _ l' a path ih =>
    obtain ⟨docs, hd⟩ := ih
    rw [index_addArticle]
    split
    · next hl =>
      subst hl
      by_cases ha : (c.index l').accepts path
      · exact ⟨_, hd.addText a.indexableText ha⟩
      · rw [Index.addText_of_not_accepts ha]
        exact ⟨docs, hd⟩
    · exact ⟨docs, hd⟩

theorem documentCount_index_le (c : Catalog) (l : Language) :
    (c.index l).documentCount ≤ c.documents := by
  rw [documents_eq]
  cases l with
  | english => exact Nat.le_add_right _ _
  | czech => exact Nat.le_add_left _ _

/-- What two catalogs have in common if the same documents are in them under different ids. -/
structure Reordered (c c' : Catalog) : Prop where
  stats_eq : c.stats = c'.stats
  index : ∀ l, (c.index l).Reordered (c'.index l)

theorem stats_congr (hn : ∀ l, c.index? l = none ↔ c'.index? l = none)
    (hs : ∀ l, (c.index l).stats = (c'.index l).stats) : c.stats = c'.stats := by
  have hl : c.languages = c'.languages := by
    refine List.filter_congr fun l _ => ?_
    have h := not_congr (hn l)
    rw [← ne_eq, ← ne_eq, ← Option.isSome_iff_ne_none, ← Option.isSome_iff_ne_none] at h
    exact Bool.eq_iff_iff.2 h
  rw [stats, stats, hl]
  exact List.map_congr_left fun l _ => by rw [hs]

def OneText (ts : List (Language × Document)) : Prop :=
  ∀ t ∈ ts, ∀ t' ∈ ts, t.1 = t'.1 → t.2.path = t'.2.path → t.2.text = t'.2.text

theorem OneText.eq_of_path_eq (h : OneText ts) {doc doc' : Document}
    (hd : doc ∈ documentsFor l ts) (hd' : doc' ∈ documentsFor l ts) (hp : doc.path = doc'.path) :
    doc = doc' := by
  have ht := h _ (mem_documentsFor_iff.1 hd) _ (mem_documentsFor_iff.1 hd') rfl hp
  obtain ⟨text, path⟩ := doc
  obtain ⟨text', path'⟩ := doc'
  obtain rfl : text = text' := ht
  obtain rfl : path = path' := hp
  rfl

/-- The order in which documents come shows in their ids only, unless ids run out. -/
theorem Built.reordered_putAll (h : Built c) (hp : ts.Perm ts') (ht : OneText ts)
    (hl : ∀ l, ((c.putAll ts).index l).documentCount < Index.DocId.last.toNat) :
    Reordered (c.putAll ts) (c.putAll ts') := by
  have hi : ∀ l, ((c.putAll ts).index l).Reordered ((c.putAll ts').index l) := by
    intro l
    obtain ⟨docs, hd⟩ := h.exists_comprises l
    have hc := hd.addTexts (documentsFor l ts)
    have hc' := hd.addTexts (documentsFor l ts')
    have hlt := hl l
    rw [index_putAll, hc.documentCount_eq] at hlt
    rw [index_putAll, index_putAll]
    have hperm : (documentsFor l ts).Perm (documentsFor l ts') := hp.filterMap _
    have htaken := hd.snd_addTexts_perm hperm (fun _ hm _ hm' => ht.eq_of_path_eq hm hm') hlt
    refine .of_perm hc hc' (htaken.append_left docs) ?_
    rw [Index.preprocessor_addTexts, Index.preprocessor_addTexts]
  have hn : ∀ l, (c.putAll ts).index? l = none ↔ (c.putAll ts').index? l = none := by
    intro l
    have hperm : (documentsFor l ts).Perm (documentsFor l ts') := hp.filterMap _
    have hnil : documentsFor l ts = [] ↔ documentsFor l ts' = [] := by
      rw [← List.length_eq_zero_iff, hperm.length_eq, List.length_eq_zero_iff]
    rw [index?_putAll_eq_none_iff, index?_putAll_eq_none_iff, hnil]
  exact ⟨stats_congr hn fun l => (hi l).stats_eq, hi⟩

end Retrieval.Catalog
