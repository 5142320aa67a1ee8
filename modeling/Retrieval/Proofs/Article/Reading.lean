import Retrieval.Proofs.Article.Key
import Retrieval.Proofs.Json.Width

namespace Retrieval.Article.Source

open Json Text

variable {s : Storage} {path key : String} {size : Nat} {keys : List String} {es : List Keyed}

/-- The keys of the articles in a file of some size: the path alone, or the path with ascending
numbers. -/
inductive KeysOf (path : String) (size : Nat) : List String → Prop
  | alone : KeysOf path size [path]
  | several {ns : List Nat} : ns.Pairwise (· < ·) → (∀ n ∈ ns, n ≤ size) →
      KeysOf path size (ns.map (numbered path))

theorem KeysOf.nodup (h : KeysOf path size keys) : keys.Nodup := by
  cases h with
  | alone => exact List.pairwise_singleton _ path
  | several hlt hle =>
    rw [List.Nodup, List.pairwise_map]
    exact hlt.imp fun hnm h => Nat.ne_of_lt hnm (numbered_inj.1 h).2

theorem KeysOf.eq_or_exists_numbered (h : KeysOf path size keys) (hk : key ∈ keys) :
    key = path ∨ ∃ n, n ≤ size ∧ key = numbered path n := by
  cases h with
  | alone => exact .inl (List.mem_singleton.1 hk)
  | several hlt hle =>
    obtain ⟨n, hn, rfl⟩ := List.mem_map.1 hk
    exact .inr ⟨n, hle n hn, rfl⟩

theorem keys_readLines {n : Nat} {lines : List (List UInt8)}
    (h : readLines path n lines = .ok es) : ∃ ns : List Nat,
      es.map Prod.fst = ns.map (numbered path) ∧ ns.Pairwise (· < ·) ∧
        ∀ m ∈ ns, n ≤ m ∧ m < n + lines.length := by
  induction lines generalizing n es with
  | nil =>
    cases h
    exact ⟨[], rfl, .nil, fun _ hm => absurd hm List.not_mem_nil⟩
  | cons bytes lines ih =>
    have skip : ∀ {es'}, readLines path (n + 1) lines = .ok es' → ∃ ns : List Nat,
        es'.map Prod.fst = ns.map (numbered path) ∧ ns.Pairwise (· < ·) ∧
          ∀ m ∈ ns, n < m ∧ m < n + (bytes :: lines).length := fun h => by
      obtain ⟨ns, hk, hlt, hb⟩ := ih h
      refine ⟨ns, hk, hlt, fun m hm => ?_⟩
      have := hb m hm
      rw [List.length_cons]
      omega
    rw [readLines] at h
    split at h
    · cases h
    · split at h
      · obtain ⟨ns, hk, hlt, hb⟩ := skip h
        exact ⟨ns, hk, hlt, fun m hm => ⟨Nat.le_of_lt (hb m hm).1, (hb m hm).2⟩⟩
      · split at h
        · cases h
        · next a _ =>
          obtain ⟨es', hes, h⟩ := bind_eq_ok_iff.1 h
          cases h
          obtain ⟨ns, hk, hlt, hb⟩ := skip hes
          refine ⟨n :: ns, ?_, List.pairwise_cons.2 ⟨fun m hm => (hb m hm).1, hlt⟩, ?_⟩
          · rw [List.map_cons, List.map_cons, hk]
          · refine List.forall_mem_cons.2 ⟨⟨Nat.le_refl n, ?_⟩, fun m hm => ?_⟩
            · rw [List.length_cons]
              omega
            · exact ⟨Nat.le_of_lt (hb m hm).1, (hb m hm).2⟩

theorem keys_readItems {n : Nat} {ts : List Tree} (h : readItems path n ts = .ok es) :
    es.map Prod.fst = (List.range' n ts.length).map (numbered path) := by
  induction ts generalizing n es with
  | nil =>
    cases h
    rfl
  | cons t ts ih =>
    rw [readItems] at h
    split at h
    · cases h
    · obtain ⟨es', hes, h⟩ := bind_eq_ok_iff.1 h
      cases h
      rw [List.length_cons, List.range'_succ, List.map_cons, List.map_cons, ih hes]

theorem keysOf_readDocument {content : ByteArray} (h : readDocument path content = .ok es) :
    KeysOf path content.size (es.map Prod.fst) := by
  rw [readDocument] at h
  split at h
  · cases h
  · next ts hd =>
    obtain ⟨text, ht, hd⟩ := Option.bind_eq_some_iff.1 hd
    rw [keys_readItems h]
    refine .several List.pairwise_lt_range' fun n hn => ?_
    have hw : ts.length ≤ text.toList.length := Tree.width_le_of_ofDocument? hd
    have hs := length_toList_le_of_fromUTF8? ht
    have hn := List.mem_range'_1.1 hn
    omega
  · split at h
    · cases h
    · cases h
      exact .alone
  · cases h

theorem keysOf_read (h : read s path = .ok es) : ∃ content, s.file? path = some content ∧
    KeysOf path content.size (es.map Prod.fst) := by
  rw [read] at h
  split at h
  · next content hf =>
    refine ⟨content, hf, ?_⟩
    split at h
    · obtain ⟨ns, hk, hlt, hb⟩ := keys_readLines h
      rw [hk]
      refine .several hlt fun n hn => ?_
      have hl : (Lines.splitOn 0x0A content.data.toList).length ≤ content.size + 1 :=
        Lines.length_splitOn_le _ _
      have := (hb n hn).2
      omega
    · exact keysOf_readDocument h
  · split at h <;> cases h

theorem nodup_keys_read (h : read s path = .ok es) : (es.map Prod.fst).Nodup := by
  obtain ⟨content, _, hk⟩ := keysOf_read h
  exact hk.nodup

end Retrieval.Article.Source
