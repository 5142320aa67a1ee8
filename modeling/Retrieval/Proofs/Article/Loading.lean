import Retrieval.Proofs.Article.Reading

namespace Retrieval

namespace Storage

/-- The sizes of all files fit a 64-bit word. -/
def Addressable (s : Storage) : Prop :=
  ∀ (place : List String) (content : ByteArray), s.files[place]? = some content →
    content.size < Decimal.Natural.wordLimit

variable {s : Storage} {content : ByteArray}

theorem addressable_empty (current : List String) : (empty current).Addressable := by
  intro place content h
  simp [empty, addFolder] at h

theorem Addressable.addFile (hs : s.Addressable) (place : List String)
    (hc : content.size < Decimal.Natural.wordLimit) : (s.addFile place content).Addressable := by
  intro other content' h
  simp only [Storage.addFile, Std.TreeMap.getElem?_insert] at h
  split at h
  · rwa [← Option.some.inj h]
  · exact hs other content' h

theorem addressable_ofList {current : List String} {entries : List (String × ByteArray)}
    (h : ∀ e ∈ entries, e.2.size < Decimal.Natural.wordLimit) :
    (ofList current entries).Addressable := by
  refine List.foldlRecOn entries _ (addressable_empty current) fun s hs e he => ?_
  dsimp only
  split
  · exact hs
  · exact hs.addFile _ (h e he)

theorem Addressable.size_lt (hs : s.Addressable) {path : String} (h : s.file? path = some content) :
    content.size < Decimal.Natural.wordLimit := by
  obtain ⟨place, _, hp⟩ := Option.bind_eq_some_iff.1 h
  exact hs place content hp

end Storage

namespace Article.Source

open Decimal Json

variable {s : Storage} {path key : String} {a : Article} {es : List Keyed}

theorem lookup_eq_some_iff (h : (es.map Prod.fst).Nodup) :
    es.lookup key = some a ↔ (key, a) ∈ es := by
  constructor
  · intro hl
    obtain ⟨before, behind, rfl, _⟩ := List.lookup_eq_some_iff.1 hl
    exact List.mem_append_right _ List.mem_cons_self
  · intro hm
    obtain ⟨before, behind, rfl⟩ := List.append_of_mem hm
    refine List.lookup_eq_some_iff.2 ⟨before, behind, rfl, fun e he => bne_iff_ne.2 ?_⟩
    rw [List.map_append] at h
    exact ((List.nodup_append.1 h).2.2 e.1 (List.mem_map_of_mem he) key List.mem_cons_self).symm

/-- A key stands for an article of the file that it belongs to. -/
theorem load_eq_ok_iff : load s key = .ok a ↔ ∃ es, read s (file key) = .ok es ∧ (key, a) ∈ es := by
  rw [load, bind_eq_ok_iff]
  refine exists_congr fun es => and_congr_right fun hr => ?_
  rw [← lookup_eq_some_iff (nodup_keys_read hr)]
  cases es.lookup key with
  | none => exact ⟨fun h => (nomatch h), fun h => (nomatch h)⟩
  | some b => exact ⟨fun h => by cases h; rfl, fun h => by cases h; rfl⟩

theorem read_of_not_jsonl {content : ByteArray} (hj : Storage.extension? path ≠ some "jsonl")
    (hf : s.file? path = some content) : read s path = readDocument path content := by
  rw [read, hf]
  exact if_neg fun h => hj (eq_of_beq h)

theorem load_eq_ok (hr : read s path = .ok es) (hf : file key = path) (hm : (key, a) ∈ es) :
    load s key = .ok a :=
  load_eq_ok_iff.2 ⟨es, hf ▸ hr, hm⟩

/-- The articles of a file are found again by their keys. Only where the key of an article is the
path alone, and this looks like the key of one of several articles in another file, that file
decides. -/
structure LoadsBack (s : Storage) (path : String) (es : List Keyed) : Prop where
  nodup : (es.map Prod.fst).Nodup
  load_eq : ∀ key a, (key, a) ∈ es → (key = path → ¬EndsInNumber path) → load s key = .ok a
  load_path : ∀ name n : String, path = name ++ "#" ++ n → (Natural.word? n).isSome → ∀ a,
    load s path = .ok a ↔ ∃ others, read s name = .ok others ∧ (path, a) ∈ others

theorem loadsBack (hs : s.Addressable) (hr : read s path = .ok es) : LoadsBack s path es := by
  obtain ⟨content, hc, hk⟩ := keysOf_read hr
  constructor
  case nodup => exact hk.nodup
  case load_eq =>
    intro key a hm hp
    refine load_eq_ok hr ?_ hm
    obtain rfl | ⟨n, hn, rfl⟩ := hk.eq_or_exists_numbered (List.mem_map_of_mem hm)
    · exact file_eq_self (hp rfl)
    · exact file_numbered (Nat.lt_of_le_of_lt hn (hs.size_lt hc))
  case load_path =>
    rintro name n rfl hn a
    rw [load_eq_ok_iff, file_of_number hn]

def writtenArticle : String :=
  "\x7b\"title\":\"x\",\"article\":\"y\"\x7d"

def shortArticle : Article :=
  ⟨"x", "y", none, none, none, none⟩

def articleLexemes : List Lexeme :=
  [.leftBrace, .text (some "title"), .colon, .text (some "x"), .comma, .text (some "article"),
    .colon, .text (some "y"), .rightBrace]

theorem read_of_writtenArticle (hj : Storage.extension? path ≠ some "jsonl")
    (hf : s.file? path = some writtenArticle.toUTF8) :
    read s path = .ok [(path, shortArticle)] := by
  have hu : String.fromUTF8? writtenArticle.toUTF8 = some writtenArticle := by decide +kernel
  have hl : Lexeme.ofChars writtenArticle.toList = articleLexemes := by decide +kernel
  rw [read_of_not_jsonl hj hf, readDocument, hu, Option.bind_some, Tree.ofDocument?, Tree.ofText?,
    hl]
  rfl

theorem read_of_array_writtenArticle (hj : Storage.extension? path ≠ some "jsonl")
    (hf : s.file? path = some ("[" ++ writtenArticle ++ "]").toUTF8) :
    read s path = .ok [(numbered path 0, shortArticle)] := by
  have hu : String.fromUTF8? ("[" ++ writtenArticle ++ "]").toUTF8 =
      some ("[" ++ writtenArticle ++ "]") := by decide +kernel
  have hl : Lexeme.ofChars ("[" ++ writtenArticle ++ "]").toList =
      .leftBracket :: articleLexemes ++ [.rightBracket] := by decide +kernel
  rw [read_of_not_jsonl hj hf, readDocument, hu, Option.bind_some, Tree.ofDocument?, Tree.ofText?,
    hl]
  rfl

def hashed (text : String) : Storage :=
  Storage.ofList [] [("a#1", text.toUTF8)]

theorem loadsBack_of_hashed_array :
    (hashed ("[" ++ writtenArticle ++ "]")).Addressable ∧
      read (hashed ("[" ++ writtenArticle ++ "]")) "a#1" = .ok [("a#1#0", shortArticle)] ∧
      load (hashed ("[" ++ writtenArticle ++ "]")) "a#1#0" = .ok shortArticle := by
  have hs : (hashed ("[" ++ writtenArticle ++ "]")).Addressable :=
    Storage.addressable_ofList (by decide +kernel)
  have hr : read (hashed ("[" ++ writtenArticle ++ "]")) "a#1" = .ok [("a#1#0", shortArticle)] :=
    read_of_array_writtenArticle (by decide +kernel) (by decide +kernel)
  refine ⟨hs, hr, ?_⟩
  exact (loadsBack hs hr).load_eq _ _ List.mem_cons_self
    fun h => absurd h (by decide)

/-- The article is there, but it is looked for in a file that is not. -/
theorem load_hashed_object_eq_error :
    collect (hashed writtenArticle) "a#1" = .ok ["a#1"] ∧
      read (hashed writtenArticle) "a#1" = .ok [("a#1", shortArticle)] ∧
      load (hashed writtenArticle) "a#1" = .error (.opening "a") := by
  refine ⟨?_, read_of_writtenArticle (by decide +kernel) (by decide +kernel), ?_⟩
  · have hf : ((hashed writtenArticle).file? "a#1").isSome := by decide +kernel
    rw [collect, if_pos hf]
  · have hk : file "a#1" = "a" := by decide +kernel
    have hf : (hashed writtenArticle).file? "a" = none := by decide +kernel
    have hd : (hashed writtenArticle).isFolder "a" = false := by decide +kernel
    rw [load, hk, read, hf, hd]
    rfl

end Article.Source

end Retrieval
