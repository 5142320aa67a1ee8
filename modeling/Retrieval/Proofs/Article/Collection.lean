import Mathlib.Data.List.Nodup
import Retrieval.Proofs.Article.Reading

namespace Retrieval

namespace Storage

open Article.Source Decimal Text

theorem ne_of_hash_mem {name other : String} (h : '#' ∈ name.toList)
    (ho : '#' ∉ other.toList) : name ≠ other :=
  fun he => ho (he ▸ h)

theorem exists_names_numbered (path : String) (n : Nat) : ∃ front l, names (numbered path n) =
    front ++ [String.ofList (l ++ '#' :: (toString n).toList)] := by
  have hn : '/' ∉ '#' :: (toString n).toList := by
    simpa using Natural.notMem_toString (by decide) n
  obtain ⟨ls, l, hl⟩ := Lines.exists_splitOn_append path.toList hn
  have hm : '#' ∈ (String.ofList (l ++ '#' :: (toString n).toList)).toList := by simp
  have hempty : String.ofList (l ++ '#' :: (toString n).toList) ≠ "" :=
    ne_of_hash_mem hm (by decide)
  have hpoint : String.ofList (l ++ '#' :: (toString n).toList) ≠ "." :=
    ne_of_hash_mem hm (by decide)
  have hk : (String.ofList (l ++ '#' :: (toString n).toList) != "" &&
      String.ofList (l ++ '#' :: (toString n).toList) != ".") = true := by
    rw [Bool.and_eq_true, bne_iff_ne, bne_iff_ne]
    exact ⟨hempty, hpoint⟩
  refine ⟨(ls.map String.ofList).filter fun n => n != "" && n != ".", l, ?_⟩
  rw [names, split, numbered, toList_hashed, hl, List.map_append, List.filter_append,
    List.map_singleton, List.filter_cons, if_pos hk, List.filter_nil]

theorem hash_mem_of_extension?_numbered {path : String} {n : Nat} {e : String}
    (h : extension? (numbered path n) = some e) : '#' ∈ e.toList := by
  obtain ⟨front, l, hf⟩ := exists_names_numbered path n
  have hn : '.' ∉ '#' :: (toString n).toList := by
    simpa using Natural.notMem_toString (by decide) n
  obtain ⟨ks, k, hk⟩ := Lines.exists_splitOn_append l hn
  rw [extension?, hf, List.getLast?_concat] at h
  split at h
  · cases h
  · cases h
  · next name _ hname =>
    obtain rfl := Option.some.inj hname
    rw [String.toList_ofList, hk, List.reverse_append, List.reverse_singleton,
      List.singleton_append] at h
    split at h
    · cases h
    · cases h
    · cases h
    · next hr =>
      rw [← Option.some.inj h, String.toList_ofList, ← (List.cons.inj hr).1]
      simp

end Storage

namespace Article.Source

variable {s : Storage} {path : String} {files : List String} {n : Nat}

theorem isArticleFile_numbered : isArticleFile (numbered path n) = false := by
  rw [isArticleFile]
  split
  · next h => exact absurd (Storage.hash_mem_of_extension?_numbered h) (by decide)
  · next h => exact absurd (Storage.hash_mem_of_extension?_numbered h) (by decide)
  · rfl

theorem collect_cases (h : collect s path = .ok files) :
    files = [path] ∨ files = (s.walk path).filter isArticleFile := by
  rw [collect] at h
  split at h
  · cases h
    exact .inl rfl
  · split at h
    · cases h
      exact .inr rfl
    · cases h

/-- The articles of those files that can be read. -/
def readAll (s : Storage) (files : List String) : List Keyed :=
  files.flatMap fun path => (read s path).toOption.getD []

theorem eq_or_exists_numbered_of_read {key : String}
    (h : key ∈ ((read s path).toOption.getD []).map Prod.fst) :
    key = path ∨ ∃ n, key = numbered path n := by
  cases hr : read s path with
  | error e =>
    rw [hr] at h
    cases h
  | ok es =>
    rw [hr] at h
    obtain ⟨content, _, hk⟩ := keysOf_read hr
    rcases hk.eq_or_exists_numbered h with rfl | ⟨n, _, rfl⟩
    · exact .inl rfl
    · exact .inr ⟨n, rfl⟩

theorem nodup_keys_of_read : (((read s path).toOption.getD []).map Prod.fst).Nodup := by
  cases hr : read s path with
  | error e => exact List.nodup_nil
  | ok es => exact nodup_keys_read hr

/-- No two article files share a key. -/
theorem path_eq_of_shared_key {other key : String} (hp : isArticleFile path)
    (ho : isArticleFile other) (h : key ∈ ((read s path).toOption.getD []).map Prod.fst)
    (h' : key ∈ ((read s other).toOption.getD []).map Prod.fst) : path = other := by
  rcases eq_or_exists_numbered_of_read h with rfl | ⟨n, rfl⟩ <;>
    rcases eq_or_exists_numbered_of_read h' with he | ⟨m, he⟩
  · exact he
  · rw [he, isArticleFile_numbered] at hp
    cases hp
  · rw [← he, isArticleFile_numbered] at ho
    cases ho
  · exact (numbered_inj.1 he).1

/-- The articles of a folder have keys of their own. -/
theorem nodup_keys_readAll (h : collect s path = .ok files) (hw : (s.walk path).Nodup) :
    ((readAll s files).map Prod.fst).Nodup := by
  rw [readAll, List.map_flatMap, List.nodup_flatMap]
  refine ⟨fun _ _ => nodup_keys_of_read, ?_⟩
  rcases collect_cases h with rfl | rfl
  · exact List.pairwise_singleton _ _
  · refine (hw.filter _).imp_of_mem fun hf hg hne key hk hk' => hne ?_
    exact path_eq_of_shared_key (List.mem_filter.1 hf).2 (List.mem_filter.1 hg).2 hk hk'

end Article.Source

end Retrieval
