import Retrieval.Proofs.Article.Collection
import Retrieval.Proofs.Article.Loading
import Retrieval.Proofs.Batch.Accounting

namespace Retrieval.Batch

open Article.Source Catalog
open Index (DocId Document)

variable {s : Storage} {path : String} {files : List String} {as : List Keyed}
  {detect : Detector} {l : Language}

theorem processed_runAll (detect : Detector) (c : Catalog) (es : List Entry) :
    (runAll detect c es).1.processed = es.length := by
  rw [runAll_eq, processed_none_countAll, length_outcomes]

def Entry.ofKeyed (e : Keyed) : Entry :=
  .article e.1 e.2

def unreadable (s : Storage) (files : List String) : Nat :=
  files.countP fun path => !(read s path).isOk

/-- But for their order, the entries of some files are their articles, and one for each file that
cannot be read. -/
theorem entries_perm (s : Storage) (files : List String) : (entries s files).Perm
    (List.replicate (unreadable s files) .unreadable ++ (readAll s files).map .ofKeyed) := by
  induction files with
  | nil => exact .refl _
  | cons path files ih =>
    rw [entries, List.flatMap_cons, ← entries, readAll, List.flatMap_cons, ← readAll, unreadable]
    cases hr : read s path with
    | error e =>
      rw [List.countP_cons_of_pos (by rw [hr]; rfl), List.replicate_succ]
      exact ih.cons _
    | ok as =>
      rw [List.countP_cons_of_neg (by rw [hr]; exact Bool.false_ne_true)]
      refine (ih.append_left (as.map .ofKeyed)).trans ?_
      rw [Except.toOption, Option.getD_some, List.map_append]
      exact List.perm_append_comm_assoc _ _ _

theorem length_entries (s : Storage) (files : List String) :
    (entries s files).length = unreadable s files + (readAll s files).length := by
  rw [(entries_perm s files).length_eq, List.length_append, List.length_replicate, List.length_map]

theorem count_unreadable_entries (s : Storage) (files : List String) :
    (entries s files).count .unreadable = unreadable s files := by
  have ha : ((readAll s files).map Entry.ofKeyed).count .unreadable = 0 := by
    simp [List.count_eq_zero, Entry.ofKeyed]
  rw [(entries_perm s files).count_eq, List.count_append, List.count_replicate_self, ha,
    Nat.add_zero]

theorem countP_isSupported_entries (detect : Detector) (s : Storage) (files : List String) :
    (entries s files).countP (isSupported detect) =
      (readAll s files).countP fun e => (detect e.2.indexableText).isSome := by
  have hu : (List.replicate (unreadable s files) Entry.unreadable).countP (isSupported detect) =
      0 := by
    simp [List.countP_replicate, isSupported]
  rw [(entries_perm s files).countP_eq, List.countP_append, hu, List.countP_map, Nat.zero_add]
  rfl

def documentsIn (detect : Detector) (l : Language) (as : List Keyed) : List Document :=
  (as.filter fun e => detect e.2.indexableText == some l).map fun e => ⟨e.2.indexableText, e.1⟩

theorem mem_documentsIn {key : String} {a : Article} (hm : (key, a) ∈ as)
    (hd : detect a.indexableText = some l) : ⟨a.indexableText, key⟩ ∈ documentsIn detect l as :=
  List.mem_map.2 ⟨(key, a), List.mem_filter.2 ⟨hm, beq_iff_eq.2 hd⟩, rfl⟩

theorem documentsFor_targets_articles (detect : Detector) (l : Language) (as : List Keyed) :
    documentsFor l (targets detect (as.map .ofKeyed)) = documentsIn detect l as := by
  induction as with
  | nil => rfl
  | cons e as ih =>
    rw [documentsIn] at ih ⊢
    cases hd : detect e.2.indexableText with
    | none =>
      have ht : target detect (.ofKeyed e) = none := by rw [Entry.ofKeyed, target, hd]; rfl
      rw [List.map_cons, targets, List.filterMap_cons_none ht, ← targets, ih,
        List.filter_cons_of_neg (by simp [hd])]
    | some l' =>
      have ht : target detect (.ofKeyed e) = some (l', ⟨e.2.indexableText, e.1⟩) := by
        rw [Entry.ofKeyed, target, hd]
        rfl
      rw [List.map_cons, targets, List.filterMap_cons_some ht, ← targets]
      by_cases hl : l' = l
      · subst hl
        rw [documentsFor_cons_self (l', _), ih, List.filter_cons_of_pos (by simp [hd]),
          List.map_cons]
      · rw [documentsFor_cons_of_ne _ hl, ih, List.filter_cons_of_neg (by simp [hd, hl])]

theorem documentsFor_targets_perm (detect : Detector) (l : Language) (s : Storage)
    (files : List String) : (documentsFor l (targets detect (entries s files))).Perm
      (documentsIn detect l (readAll s files)) := by
  have hu : targets detect (List.replicate (unreadable s files) .unreadable) = [] := by
    simp [targets, target]
  have hp := ((entries_perm s files).filterMap (target detect)).filterMap
    fun t => if t.1 = l then some t.2 else none
  rw [List.filterMap_append, ← targets, ← targets, hu, List.nil_append] at hp
  exact hp.trans (.of_eq (documentsFor_targets_articles detect l (readAll s files)))

theorem paths_documentsIn_sublist (detect : Detector) (l : Language) (as : List Keyed) :
    ((documentsIn detect l as).map Document.path).Sublist (as.map Prod.fst) := by
  rw [documentsIn, List.map_map]
  exact List.filter_sublist.map Prod.fst

theorem length_documentsIn (detect : Detector) (as : List Keyed) :
    (documentsIn detect .english as).length + (documentsIn detect .czech as).length =
      as.countP fun e => (detect e.2.indexableText).isSome := by
  rw [documentsIn, documentsIn, List.length_map, List.length_map, ← List.countP_eq_length_filter,
    ← List.countP_eq_length_filter]
  induction as with
  | nil => rfl
  | cons e as ih =>
    rw [List.countP_cons, List.countP_cons, List.countP_cons, ← ih]
    cases hd : detect e.2.indexableText with
    | none => simp
    | some l => cases l <;> simp <;> omega

theorem exists_index?_handleAll {doc : Document} {es : List Entry} (c : Catalog)
    (h : doc ∈ documentsFor l (targets detect es)) :
    ∃ ix, (handleAll detect c es).index? l = some ix := by
  refine Option.ne_none_iff_exists'.1 fun hn => ?_
  rw [handleAll_eq_putAll, index?_putAll_eq_none_iff] at hn
  rw [hn.2] at h
  exact absurd h List.not_mem_nil

section Empty

variable (config : Config) (s' : Storage) (detect : Detector) (l : Language)

theorem index_empty : (Catalog.empty config s').index l = .empty (config.preprocessor s' l) := by
  cases l <;> rfl

theorem preprocessor_index_handleAll (es : List Entry) :
    ((handleAll detect (Catalog.empty config s') es).index l).preprocessor =
      config.preprocessor s' l := by
  rw [handleAll_eq_putAll, index_putAll, index_empty, Index.preprocessor_addTexts]
  rfl

theorem comprises_handleAll (hn : ((readAll s files).map Prod.fst).Nodup)
    (hl : (readAll s files).length ≤ DocId.last.toNat) :
    ((handleAll detect (Catalog.empty config s') (entries s files)).index l).Comprises
      (documentsFor l (targets detect (entries s files))) := by
  have he := Index.comprises_empty (config.preprocessor s' l)
  have hp := (documentsFor_targets_perm detect l s files).map Document.path
  have hs := paths_documentsIn_sublist detect l (readAll s files)
  have hle : (documentsFor l (targets detect (entries s files))).length ≤ DocId.last.toNat := by
    have h := hp.length_eq.trans_le hs.length_le
    rw [List.length_map, List.length_map] at h
    exact h.trans hl
  have hd : ((Index.empty (config.preprocessor s' l)).addTexts
      (documentsFor l (targets detect (entries s files)))).2 =
      documentsFor l (targets detect (entries s files)) :=
    he.snd_addTexts_eq_self (hp.nodup_iff.2 (hn.sublist hs)) hle
  have hc := he.addTexts (documentsFor l (targets detect (entries s files)))
  rw [handleAll_eq_putAll, index_putAll, index_empty]
  rwa [hd] at hc

theorem exists_document {key : String} {a : Article}
    (hn : ((readAll s files).map Prod.fst).Nodup) (hl : (readAll s files).length ≤ DocId.last.toNat)
    (hm : (key, a) ∈ readAll s files) (hd : detect a.indexableText = some l) :
    ∃ ix d, (handleAll detect (Catalog.empty config s') (entries s files)).index? l = some ix ∧
      ix.filePath d = .ok key ∧ (∀ d', ix.filePath d' = .ok key → d' = d) ∧
      ∀ term, ix.occurrences d term =
        ((config.preprocessor s' l).terms a.indexableText).count term := by
  have hc := comprises_handleAll config s' detect l hn hl
  have hdoc := (documentsFor_targets_perm detect l s files).mem_iff.2 (mem_documentsIn hm hd)
  obtain ⟨i, hi, hget⟩ := List.mem_iff_getElem.1 hdoc
  obtain ⟨d, rfl⟩ := hc.exists_toNat_eq hi
  have hget := List.getElem?_eq_some_iff.2 ⟨hi, hget⟩
  have hp := preprocessor_index_handleAll config s' detect l (entries s files)
  obtain ⟨ix, hix⟩ := exists_index?_handleAll (Catalog.empty config s') hdoc
  rw [index, hix, Option.getD_some] at hc hp
  have hpath := hc.filePath_eq_ok_iff.2 ⟨_, hget, rfl⟩
  refine ⟨ix, d, hix, hpath, fun d' hd' => hc.filePath_inj hd' hpath, fun term => ?_⟩
  rw [hc.occurrences_eq, hget, hp]

theorem documents_empty : (Catalog.empty config s').documents = 0 := rfl

theorem count_indexed_entries (hn : ((readAll s files).map Prod.fst).Nodup)
    (hl : (readAll s files).length ≤ DocId.last.toNat) :
    (outcomes detect (Catalog.empty config s') (entries s files)).count .indexed =
      (readAll s files).countP fun e => (detect e.2.indexableText).isSome := by
  have hd := documents_handleAll detect (Catalog.empty config s') (entries s files)
  have hc := fun l => (comprises_handleAll config s' detect l hn hl).documentCount_eq
  have hp := fun l => (documentsFor_targets_perm detect l s files).length_eq
  rw [documents_empty, Nat.zero_add, documents_eq, hc, hc, hp, hp, length_documentsIn] at hd
  exact hd.symm

end Empty

/-- What a batch over some files makes of a catalog without indexes: no article is taken for
another one. -/
structure LosesNothing (s : Storage) (files : List String) (detect : Detector)
    (p : Language → Terms.Preprocessor) (r : Report) (c : Catalog) : Prop where
  nodup_keys : ((readAll s files).map Prod.fst).Nodup
  duplicates_eq : r.duplicates = 0
  failed_eq : r.failed = unreadable s files
  processed_eq : r.processed = r.failed + (readAll s files).length
  indexed_eq : r.indexed = (readAll s files).countP fun e => (detect e.2.indexableText).isSome
  exists_document : ∀ key a l, (key, a) ∈ readAll s files → detect a.indexableText = some l →
    ∃ ix d, c.index? l = some ix ∧ ix.filePath d = .ok key ∧
      (∀ d', ix.filePath d' = .ok key → d' = d) ∧
      ∀ term, ix.occurrences d term = ((p l).terms a.indexableText).count term

/-- The articles of a folder are all told apart in a batch. -/
theorem losesNothing (config : Config) (s' : Storage) (detect : Detector)
    (h : collect s path = .ok files) (hw : (s.walk path).Nodup)
    (hl : (readAll s files).length ≤ DocId.last.toNat) :
    let result := runAll detect (Catalog.empty config s') (entries s files)
    LosesNothing s files detect (config.preprocessor s') result.1 result.2 := by
  intro result
  have hn := nodup_keys_readAll h hw
  let os := outcomes detect (Catalog.empty config s') (entries s files)
  have hcount : ∀ o, result.1.counted o = os.count o :=
    counted_runAll detect (Catalog.empty config s') (entries s files)
  have hindexed : os.count .indexed =
      (readAll s files).countP fun e => (detect e.2.indexableText).isSome :=
    count_indexed_entries config s' detect hn hl
  have hfailed : result.1.failed = unreadable s files :=
    (hcount .failed).trans ((count_failed_outcomes _ _ _).trans (count_unreadable_entries s files))
  constructor
  case nodup_keys => exact hn
  case duplicates_eq =>
    have hs : os.count .indexed + os.count .duplicate =
        (entries s files).countP (isSupported detect) :=
      count_indexed_add_count_duplicate detect _ _
    rw [countP_isSupported_entries] at hs
    have hd : os.count .duplicate = 0 := by omega
    exact (hcount .duplicate).trans hd
  case failed_eq => exact hfailed
  case processed_eq =>
    rw [hfailed, ← length_entries]
    exact processed_runAll detect _ (entries s files)
  case indexed_eq => exact (hcount .indexed).trans hindexed
  case exists_document =>
    intro key a l hm hd
    have hd := exists_document config s' detect l hn hl hm hd
    rwa [← catalog_runAll] at hd

def nestedNames : Storage :=
  Storage.ofList [] [("d/x.json", ("[" ++ writtenArticle ++ "]").toUTF8),
    ("d/x.json#0/y.json", writtenArticle.toUTF8), ("d/z.json", "".toUTF8)]

def nestedFiles : List String :=
  ["d/x.json", "d/x.json#0/y.json", "d/z.json"]

theorem collect_nestedNames : collect nestedNames "d" = .ok nestedFiles := by
  have hf : (nestedNames.file? "d").isSome = false := by decide +kernel
  have hd : nestedNames.isFolder "d" = true := by decide +kernel
  have hw : (nestedNames.walk "d").filter isArticleFile = nestedFiles := by decide +kernel
  rw [collect, hf, hd, hw]
  rfl

theorem read_nestedNames :
    read nestedNames "d/x.json" = .ok [("d/x.json#0", shortArticle)] ∧
      read nestedNames "d/x.json#0/y.json" = .ok [("d/x.json#0/y.json", shortArticle)] ∧
      read nestedNames "d/z.json" = .error (.parsing "d/z.json") := by
  refine ⟨?_, ?_, ?_⟩
  · exact read_of_array_writtenArticle (by decide +kernel) (by decide +kernel)
  · exact read_of_writtenArticle (by decide +kernel) (by decide +kernel)
  · have hf : nestedNames.file? "d/z.json" = some "".toUTF8 := by decide +kernel
    have hu : String.fromUTF8? "".toUTF8 = some "" := by decide +kernel
    have hl : Json.Lexeme.ofChars "".toList = [] := by decide +kernel
    rw [read_of_not_jsonl (by decide +kernel) hf, readDocument, hu, Option.bind_some,
      Json.Tree.ofDocument?, Json.Tree.ofText?, hl]
    rfl

theorem readAll_nestedNames : readAll nestedNames nestedFiles =
    [("d/x.json#0", shortArticle), ("d/x.json#0/y.json", shortArticle)] := by
  obtain ⟨hx, hy, hz⟩ := read_nestedNames
  simp only [readAll, nestedFiles, List.flatMap_cons, hx, hy, hz]
  rfl

theorem unreadable_nestedNames : unreadable nestedNames nestedFiles = 1 := by
  obtain ⟨hx, hy, hz⟩ := read_nestedNames
  simp [unreadable, nestedFiles, hx, hy, hz, Except.isOk, Except.toBool]

theorem losesNothing_of_nested_names :
    collect nestedNames "d" = .ok nestedFiles ∧ (nestedNames.walk "d").Nodup ∧
      (readAll nestedNames nestedFiles).length ≤ DocId.last.toNat ∧
      let report := (runAll (fun _ => some .english) (Catalog.empty .default nestedNames)
        (entries nestedNames nestedFiles)).1
      report.processed = 3 ∧ report.indexed = 2 ∧ report.duplicates = 0 ∧ report.failed = 1 := by
  have hw : (nestedNames.walk "d").Nodup := by decide +kernel
  have hl : (readAll nestedNames nestedFiles).length ≤ DocId.last.toNat := by
    rw [readAll_nestedNames]
    decide
  have hr := losesNothing .default nestedNames (fun _ => some .english) collect_nestedNames hw hl
  have hp := hr.processed_eq
  have hi := hr.indexed_eq
  rw [hr.failed_eq, unreadable_nestedNames, readAll_nestedNames] at hp
  rw [readAll_nestedNames] at hi
  exact ⟨collect_nestedNames, hw, hl, hp, hi, hr.duplicates_eq,
    hr.failed_eq.trans unreadable_nestedNames⟩

end Retrieval.Batch
