import Retrieval.Index.DocList

namespace Retrieval.Index

structure Posting where
  docId : DocId
  frequency : Nat
  deriving DecidableEq, Repr

def Posting.increment (p : Posting) : Posting :=
  { p with frequency := p.frequency + 1 }

/-- The documents of one term in ascending order, with the number of occurrences in each. -/
structure PostingList where
  postings : Array Posting
  ascending : (postings.toList.map Posting.docId).Pairwise (· < ·)

namespace PostingList

theorem docId_increment (p : Posting) : p.increment.docId = p.docId := rfl

theorem map_docId_modify (ps : List Posting) (i : Nat) :
    (ps.modify i Posting.increment).map Posting.docId = ps.map Posting.docId := by
  induction ps generalizing i with
  | nil => simp
  | cons p ps ih => cases i <;> simp [ih, docId_increment]

def position (ps : Array Posting) (d : DocId) : Nat :=
  Bisect.search ps (fun p => p.docId < d)

theorem docId_lt_of_mem_take {ps : Array Posting}
    (h : (ps.toList.map Posting.docId).Pairwise (· < ·)) {d : DocId} {p : Posting}
    (hp : p ∈ ps.toList.take (position ps d)) : p.docId < d := by
  obtain ⟨i, hi, rfl⟩ := List.mem_take_iff_getElem.1 hp
  have := Bisect.getElem_search (DocId.leading_lt h d) i (by simp at hi; omega)
  simp only [Array.getElem_toList]
  simpa [show i < Bisect.search ps (fun p => p.docId < d) from by
    simp only [position] at hi; omega] using this

theorem le_docId_of_mem_drop {ps : Array Posting}
    (h : (ps.toList.map Posting.docId).Pairwise (· < ·)) {d : DocId} {p : Posting}
    (hp : p ∈ ps.toList.drop (position ps d)) : d ≤ p.docId := by
  obtain ⟨i, hi, rfl⟩ := List.mem_drop_iff_getElem.1 hp
  have := Bisect.getElem_search (DocId.leading_lt h d) (position ps d + i) (by simp at hi; omega)
  simp only [Array.getElem_toList]
  rw [← UInt32.not_lt]
  intro hlt
  rw [decide_eq_true hlt, eq_comm, decide_eq_true_eq, position] at this
  omega

def toList (l : PostingList) : List Posting :=
  l.postings.toList

def empty : PostingList :=
  ⟨#[], DocList.pairwise_nil⟩

def size (l : PostingList) : Nat :=
  l.postings.size

def isEmpty (l : PostingList) : Bool :=
  l.postings.isEmpty

def incrementAt (l : PostingList) (i : Nat) : PostingList :=
  ⟨l.postings.modify i Posting.increment, by
    rw [Array.toList_modify, map_docId_modify]; exact l.ascending⟩

theorem docId_lt_of_back? {ps : Array Posting}
    (h : (ps.toList.map Posting.docId).Pairwise (· < ·)) {d : DocId}
    (hd : ∀ q, ps.back? = some q → q.docId < d) {p : Posting} (hp : p ∈ ps.toList) :
    p.docId < d := by
  obtain ⟨i, hi, rfl⟩ := List.mem_iff_getElem.1 hp
  simp only [Array.length_toList] at hi
  have hlast := hd ps[ps.size - 1] (by
    rw [Array.back?_eq_getElem?]
    exact Array.getElem?_eq_getElem (by omega))
  rcases Nat.lt_or_eq_of_le (Nat.le_sub_one_of_lt hi) with h' | h'
  · rw [List.pairwise_map] at h
    exact UInt32.lt_trans
      (List.pairwise_iff_getElem.1 h i (ps.size - 1) (by simpa) (by simp; omega) h') hlast
  · simpa [h'] using hlast

def push (l : PostingList) (d : DocId) (h : ∀ q, l.postings.back? = some q → q.docId < d) :
    PostingList :=
  ⟨l.postings.push ⟨d, 1⟩, by
    simpa [List.pairwise_append, l.ascending] using
      fun p hp => docId_lt_of_back? l.ascending h (by simpa using hp)⟩

theorem lt_docId_of_mem_drop {ps : Array Posting}
    (h : (ps.toList.map Posting.docId).Pairwise (· < ·)) {d : DocId}
    (hd : ∀ q, ps[position ps d]? = some q → q.docId ≠ d) {p : Posting}
    (hp : p ∈ ps.toList.drop (position ps d)) : d < p.docId := by
  have hle := fun q (hq : q ∈ ps.toList.drop (position ps d)) => le_docId_of_mem_drop h hq
  have hs := (h.sublist ((List.drop_sublist (position ps d) ps.toList).map Posting.docId))
  have hhead : (ps.toList.drop (position ps d)).head? = ps[position ps d]? := by simp
  cases hl : ps.toList.drop (position ps d) with
  | nil => simp [hl] at hp
  | cons q qs =>
    rw [hl] at hp hle hs hhead
    have hq : d < q.docId :=
      UInt32.lt_of_le_of_ne (hle q (by simp)) (Ne.symm (hd q (by simpa using hhead.symm)))
    rcases List.mem_cons.1 hp with rfl | hp
    · exact hq
    · exact UInt32.lt_trans hq ((List.pairwise_cons.1 hs).1 _ (List.mem_map_of_mem hp))

def insert (l : PostingList) (d : DocId)
    (h : ∀ q, l.postings[position l.postings d]? = some q → q.docId ≠ d) : PostingList :=
  let n := position l.postings d
  ⟨(l.toList.take n ++ ⟨d, 1⟩ :: l.toList.drop n).toArray, by
    have hl := l.ascending
    rw [← List.take_append_drop n l.postings.toList, List.map_append, List.pairwise_append] at hl
    simp only [List.map_append, List.map_cons, List.pairwise_append, List.pairwise_cons]
    refine ⟨hl.1, ⟨fun x hx => ?_, hl.2.1⟩, fun a ha b hb => ?_⟩
    · obtain ⟨p, hp, rfl⟩ := List.mem_map.1 hx
      exact lt_docId_of_mem_drop l.ascending h hp
    · rcases List.mem_cons.1 hb with rfl | hb
      · obtain ⟨p, hp, rfl⟩ := List.mem_map.1 ha
        exact docId_lt_of_mem_take l.ascending hp
      · exact hl.2.2 a ha b hb⟩

def addInside (l : PostingList) (d : DocId) : PostingList × Bool :=
  match h : l.postings[position l.postings d]? with
  | none => (l.insert d (by simp [h]), true)
  | some p =>
    if hp : p.docId = d then (l.incrementAt (position l.postings d), false)
    else (l.insert d (by simpa [h] using hp), true)

/-- Counts one occurrence of the term in a document; tells whether it is the first there. Most
occurrences are of the last document or of one after it. -/
def add (l : PostingList) (d : DocId) : PostingList × Bool :=
  match h : l.postings.back? with
  | none => (l.push d (by simp [h]), true)
  | some p =>
    if p.docId = d then (l.incrementAt (l.size - 1), false)
    else if hlt : p.docId < d then (l.push d (by simpa [h] using hlt), true)
    else l.addInside d

def frequency (l : PostingList) (d : DocId) : Nat :=
  match l.postings[position l.postings d]? with
  | none => 0
  | some p => if p.docId = d then p.frequency else 0

def docIds (l : PostingList) : DocList :=
  .ofAscending (l.toList.map Posting.docId) l.ascending

end PostingList

end Retrieval.Index
