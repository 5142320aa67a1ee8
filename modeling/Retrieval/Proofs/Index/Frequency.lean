import Mathlib.Algebra.GroupWithZero.Nat
import Mathlib.Tactic.Tauto
import Std.Data.TreeMap.Lemmas
import Retrieval.Index.Bag
import Retrieval.Index.PostingList
import Retrieval.Proofs.Index.Membership

namespace Retrieval.Index

namespace PostingList

theorem getElem?_position {ps : Array Posting}
    (h : (ps.toList.map Posting.docId).Pairwise (· < ·)) {p : Posting} (hp : p ∈ ps.toList) :
    ps[position ps p.docId]? = some p := by
  obtain ⟨i, hi, rfl⟩ := List.mem_iff_getElem.1 hp
  rw [Array.length_toList] at hi
  rw [Array.getElem_toList, position, DocId.search_eq h hi, Array.getElem?_eq_getElem hi]

theorem frequency_of_mem {l : PostingList} {p : Posting} (hp : p ∈ l.toList) :
    l.frequency p.docId = p.frequency := by
  simp [frequency, getElem?_position l.ascending hp]

theorem frequency_of_not_mem {l : PostingList} {d : DocId} (h : ∀ p ∈ l.toList, p.docId ≠ d) :
    l.frequency d = 0 := by
  unfold frequency
  split
  · rfl
  · next p hp =>
    have hm : p ∈ l.toList := by
      simpa [toList] using Array.mem_of_getElem? hp
    rw [if_neg (h p hm)]

theorem nodup_docIds (l : PostingList) : (l.toList.map Posting.docId).Nodup :=
  l.ascending.imp UInt32.ne_of_lt

theorem sum_frequency_eq_zero {ps : List Posting} {d : DocId} (h : ∀ p ∈ ps, p.docId ≠ d) :
    (ps.map fun p => if p.docId = d then p.frequency else 0).sum = 0 := by
  rw [List.map_congr_left fun p hp => if_neg (h p hp), List.map_const', List.sum_replicate_nat,
    Nat.mul_zero]

/-- A document's frequency is found by bisection, but it is a sum like any other. -/
theorem frequency_eq_sum (l : PostingList) (d : DocId) :
    l.frequency d = (l.toList.map fun p => if p.docId = d then p.frequency else 0).sum := by
  by_cases h : ∃ p ∈ l.toList, p.docId = d
  · obtain ⟨p, hp, rfl⟩ := h
    obtain ⟨as, bs, hl⟩ := List.append_of_mem hp
    have hd := nodup_docIds l
    rw [hl, List.map_append, List.map_cons, List.nodup_append, List.nodup_cons] at hd
    have ha : ∀ q ∈ as, q.docId ≠ p.docId := fun q hq =>
      hd.2.2 _ (List.mem_map_of_mem hq) _ List.mem_cons_self
    have hb : ∀ q ∈ bs, q.docId ≠ p.docId := fun q hq he =>
      hd.2.1.1 (he ▸ List.mem_map_of_mem hq)
    rw [frequency_of_mem hp, hl, List.map_append, List.map_cons, List.sum_append, List.sum_cons,
      sum_frequency_eq_zero ha, sum_frequency_eq_zero hb, if_pos rfl]
    omega
  · have hn : ∀ p ∈ l.toList, p.docId ≠ d := fun p hp he => h ⟨p, hp, he⟩
    rw [frequency_of_not_mem hn, sum_frequency_eq_zero hn]

def total (l : PostingList) : Nat :=
  (l.toList.map Posting.frequency).sum

def Positive (l : PostingList) : Prop :=
  ∀ p ∈ l.toList, 0 < p.frequency

/-- What counting one occurrence in a document does to the postings of a term, and whether it is
the first one there. -/
inductive Counted (d : DocId) : List Posting → List Posting → Bool → Prop
  | again (as : List Posting) (p : Posting) (bs : List Posting) (h : p.docId = d) :
    Counted d (as ++ p :: bs) (as ++ p.increment :: bs) false
  | first (as bs : List Posting) (h : ∀ p ∈ as ++ bs, p.docId ≠ d) :
    Counted d (as ++ bs) (as ++ ⟨d, 1⟩ :: bs) true

namespace Counted

variable {d : DocId} {ps qs : List Posting} {b : Bool}

theorem sum_map (h : Counted d ps qs b) (f : Posting → Nat) (c : DocId → Nat)
    (hf : ∀ p, f p.increment = f p + c p.docId) (hc : f ⟨d, 1⟩ = c d) :
    (qs.map f).sum = (ps.map f).sum + c d := by
  cases h with
  | again as p bs hp =>
    simp only [List.map_append, List.map_cons, List.sum_append, List.sum_cons, hf, hp]
    omega
  | first as bs =>
    simp only [List.map_append, List.map_cons, List.sum_append, List.sum_cons, hc]
    omega

theorem positive (h : Counted d ps qs b) (hp : ∀ p ∈ ps, 0 < p.frequency) :
    ∀ p ∈ qs, 0 < p.frequency := by
  cases h with
  | again as q bs =>
    rw [List.forall_mem_append, List.forall_mem_cons] at hp ⊢
    obtain ⟨ha, _, hb⟩ := hp
    exact ⟨ha, Nat.succ_pos _, hb⟩
  | first as bs =>
    rw [List.forall_mem_append] at hp ⊢
    obtain ⟨ha, hb⟩ := hp
    exact ⟨ha, List.forall_mem_cons.2 ⟨Nat.one_pos, hb⟩⟩

theorem mem_docIds (h : Counted d ps qs b) (d' : DocId) :
    d' ∈ qs.map Posting.docId ↔ d' = d ∨ d' ∈ ps.map Posting.docId := by
  cases h with
  | again as p bs hp =>
    simp only [List.map_append, List.map_cons, docId_increment, List.mem_append, List.mem_cons, hp]
    tauto
  | first as bs =>
    simp only [List.map_append, List.map_cons, List.mem_append, List.mem_cons]
    tauto

end Counted

theorem counted_incrementAt {l : PostingList} {i : Nat} {p : Posting} (h : l.postings[i]? = some p) :
    Counted p.docId l.toList (l.incrementAt i).toList false := by
  have hi : l.toList[i]? = some p := by
    rw [toList, Array.getElem?_toList, h]
  obtain ⟨hlt, rfl⟩ := List.getElem?_eq_some_iff.1 hi
  have hm : (l.incrementAt i).toList = l.toList.modify i Posting.increment := by
    simp [incrementAt, toList]
  rw [hm, List.modify_eq_take_cons_drop hlt]
  have hs : l.toList = l.toList.take i ++ l.toList[i] :: l.toList.drop (i + 1) := by
    rw [List.getElem_cons_drop, List.take_append_drop]
  conv => arg 2; rw [hs]
  exact .again _ _ _ rfl

theorem counted_push {l : PostingList} {d : DocId}
    (h : ∀ q, l.postings.back? = some q → q.docId < d) :
    Counted d l.toList (l.push d h).toList true := by
  have hn : ∀ p ∈ l.toList ++ [], p.docId ≠ d := fun p hp =>
    UInt32.ne_of_lt (docId_lt_of_back? l.ascending h (by simpa [toList] using hp))
  simpa [push, toList] using Counted.first l.toList [] hn

theorem counted_insert {l : PostingList} {d : DocId}
    (h : ∀ q, l.postings[position l.postings d]? = some q → q.docId ≠ d) :
    Counted d l.toList (l.insert d h).toList true := by
  have hs := List.take_append_drop (position l.postings d) l.toList
  have hn : ∀ p ∈ l.toList.take (position l.postings d) ++ l.toList.drop (position l.postings d),
      p.docId ≠ d := by
    intro p hp
    rcases List.mem_append.1 hp with hp | hp
    · exact UInt32.ne_of_lt (docId_lt_of_mem_take l.ascending hp)
    · exact (UInt32.ne_of_lt (lt_docId_of_mem_drop l.ascending h hp)).symm
  have hc := Counted.first _ _ hn
  rw [hs] at hc
  exact hc

theorem counted_addInside (l : PostingList) (d : DocId) :
    Counted d l.toList (l.addInside d).1.toList (l.addInside d).2 := by
  unfold addInside
  split
  · next h => exact counted_insert (by simp [h])
  · next p hp =>
    split
    · next hd =>
      subst hd
      exact counted_incrementAt hp
    · next hd => exact counted_insert (by simpa [hp] using hd)

/-- Wherever an id arrives, at the end, after it or before it, its occurrence is counted. -/
theorem counted_add (l : PostingList) (d : DocId) :
    Counted d l.toList (l.add d).1.toList (l.add d).2 := by
  unfold add
  split
  · next h => exact counted_push (by simp [h])
  · next p hp =>
    split
    · next hd =>
      subst hd
      exact counted_incrementAt (by simpa [Array.back?_eq_getElem?, size] using hp)
    · split
      · next hlt => exact counted_push (by simpa [hp] using hlt)
      · exact counted_addInside l d

@[simp]
theorem frequency_add (l : PostingList) (d d' : DocId) :
    (l.add d).1.frequency d' = l.frequency d' + if d = d' then 1 else 0 := by
  rw [frequency_eq_sum, frequency_eq_sum]
  refine (counted_add l d).sum_map _ (fun x => if x = d' then 1 else 0) (fun p => ?_) rfl
  rw [docId_increment]
  split <;> rfl

@[simp]
theorem total_add (l : PostingList) (d : DocId) : (l.add d).1.total = l.total + 1 :=
  (counted_add l d).sum_map _ (fun _ => 1) (fun _ => rfl) rfl

theorem positive_add {l : PostingList} (h : l.Positive) (d : DocId) : (l.add d).1.Positive :=
  (counted_add l d).positive h

@[simp]
theorem mem_docIds_add (l : PostingList) (d d' : DocId) :
    d' ∈ (l.add d).1.docIds ↔ d' = d ∨ d' ∈ l.docIds :=
  (counted_add l d).mem_docIds d'

theorem mem_docIds {l : PostingList} {d : DocId} :
    d ∈ l.docIds ↔ ∃ p ∈ l.toList, p.docId = d :=
  List.mem_map

theorem mem_docIds_iff {l : PostingList} (h : l.Positive) (d : DocId) :
    d ∈ l.docIds ↔ 0 < l.frequency d := by
  rw [mem_docIds]
  constructor
  · rintro ⟨p, hp, rfl⟩
    rw [frequency_of_mem hp]
    exact h p hp
  · intro hf
    refine Classical.byContradiction fun hn => ?_
    have hz := frequency_of_not_mem fun p hp he => hn ⟨p, hp, he⟩
    omega

theorem toList_add_ne_nil (l : PostingList) (d : DocId) : (l.add d).1.toList ≠ [] := by
  obtain ⟨p, hp, _⟩ := mem_docIds.1 ((mem_docIds_add l d d).2 (.inl rfl))
  exact List.ne_nil_of_mem hp

@[simp]
theorem frequency_empty (d : DocId) : empty.frequency d = 0 :=
  frequency_of_not_mem fun _ hp => absurd hp List.not_mem_nil

@[simp]
theorem total_empty : empty.total = 0 := rfl

theorem positive_empty : empty.Positive :=
  fun _ hp => absurd hp List.not_mem_nil

end PostingList

namespace Bag

@[simp]
theorem occurrences_add (b : Bag) (term term' : String) (n : Nat) :
    (b.add term n).occurrences term' = b.occurrences term' + if term = term' then n else 0 := by
  simp only [occurrences, add, Std.TreeMap.getElem?_insert, Std.LawfulEqCmp.compare_eq_iff_eq]
  split
  · next h => subst h; rfl
  · rfl

@[simp]
theorem occurrences_empty (term : String) : empty.occurrences term = 0 := rfl

end Bag

end Retrieval.Index
