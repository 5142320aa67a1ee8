import Std.Data.TreeSet
import Retrieval.Bisect

namespace Retrieval.Index

abbrev DocId := UInt32

namespace DocId

def last : DocId := 0xFFFFFFFF

/-- The id after a document's, which is its own if there is no greater one. -/
def next (d : DocId) : DocId :=
  if d = last then d else d + 1

section Bisection

variable {α : Type} {key : α → DocId} {xs : Array α}

theorem key_lt_of_lt (h : (xs.toList.map key).Pairwise (· < ·)) {i j : Nat} (hi : i < xs.size)
    (hj : j < xs.size) (hij : i < j) : key xs[i] < key xs[j] := by
  rw [List.pairwise_map] at h
  have hk := List.pairwise_iff_getElem.1 h i j (by rwa [Array.length_toList])
    (by rwa [Array.length_toList]) hij
  rwa [Array.getElem_toList, Array.getElem_toList] at hk

theorem leading_lt (h : (xs.toList.map key).Pairwise (· < ·)) (d : DocId) :
    Bisect.Leading xs (fun x => key x < d) := by
  intro i j hij hj hd
  simp only [decide_eq_true_eq] at hd ⊢
  exact UInt32.lt_trans (key_lt_of_lt h (by omega) hj hij) hd

theorem search_eq (h : (xs.toList.map key).Pairwise (· < ·)) {i : Nat} (hi : i < xs.size) :
    Bisect.search xs (fun x => key x < key xs[i]) = i := by
  have hs := Bisect.getElem_search (leading_lt h (key xs[i]))
  have hle : ¬i < Bisect.search xs (fun x => key x < key xs[i]) := by
    simpa using (hs i hi).symm
  have hge : ¬Bisect.search xs (fun x => key x < key xs[i]) < i := by
    intro hlt
    have hn := hs (Bisect.search xs (fun x => key x < key xs[i])) (by omega)
    simp [key_lt_of_lt h (by omega) hi hlt] at hn
  omega

end Bisection

end DocId

/-- Document ids in ascending order, each once. -/
structure DocList where
  ids : Array DocId
  ascending : ids.toList.Pairwise (· < ·)

namespace DocList

def inter : List DocId → List DocId → List DocId
  | [], _ => []
  | _, [] => []
  | a :: as, b :: bs =>
    if a < b then inter as (b :: bs)
    else if b < a then inter (a :: as) bs
    else a :: inter as bs
termination_by as bs => as.length + bs.length

def union : List DocId → List DocId → List DocId
  | [], bs => bs
  | as, [] => as
  | a :: as, b :: bs =>
    if a < b then a :: union as (b :: bs)
    else if b < a then b :: union (a :: as) bs
    else a :: union as bs
termination_by as bs => as.length + bs.length

def diff : List DocId → List DocId → List DocId
  | [], _ => []
  | us, [] => us
  | u :: us, d :: ds =>
    if u < d then u :: diff us (d :: ds)
    else if d < u then diff (u :: us) ds
    else diff us ds
termination_by us ds => us.length + ds.length

theorem inter_sublist (as bs : List DocId) : (inter as bs).Sublist as := by
  fun_induction inter as bs with
  | case1 => exact .slnil
  | case2 => exact List.nil_sublist _
  | case3 a as b bs h ih => exact ih.cons _
  | case4 a as b bs h h' ih => exact ih
  | case5 a as b bs h h' ih => exact ih.cons_cons _

theorem diff_sublist (us ds : List DocId) : (diff us ds).Sublist us := by
  fun_induction diff us ds with
  | case1 => exact .slnil
  | case2 => exact List.Sublist.refl _
  | case3 u us d ds h ih => exact ih.cons_cons _
  | case4 u us d ds h h' ih => exact ih
  | case5 u us d ds h h' ih => exact ih.cons _

theorem mem_or_mem_of_mem_union {x : DocId} {as bs : List DocId} (h : x ∈ union as bs) :
    x ∈ as ∨ x ∈ bs := by
  fun_induction union as bs with
  | case1 => exact .inr h
  | case2 => exact .inl h
  | case3 a as b bs _ ih => grind
  | case4 a as b bs _ _ ih => grind
  | case5 a as b bs _ _ ih => grind

theorem pairwise_union {as bs : List DocId} (ha : as.Pairwise (· < ·)) (hb : bs.Pairwise (· < ·)) :
    (union as bs).Pairwise (· < ·) := by
  fun_induction union as bs with
  | case1 => exact hb
  | case2 => exact ha
  | case3 a as b bs h ih =>
    rw [List.pairwise_cons] at ha
    refine List.pairwise_cons.2 ⟨fun x hx => ?_, ih ha.2 hb⟩
    rcases mem_or_mem_of_mem_union hx with hx | hx
    · exact ha.1 x hx
    · rcases List.mem_cons.1 hx with rfl | hx
      · exact h
      · exact UInt32.lt_trans h ((List.pairwise_cons.1 hb).1 x hx)
  | case4 a as b bs _ h ih =>
    rw [List.pairwise_cons] at hb
    refine List.pairwise_cons.2 ⟨fun x hx => ?_, ih ha hb.2⟩
    rcases mem_or_mem_of_mem_union hx with hx | hx
    · rcases List.mem_cons.1 hx with rfl | hx
      · exact h
      · exact UInt32.lt_trans h ((List.pairwise_cons.1 ha).1 x hx)
    · exact hb.1 x hx
  | case5 a as b bs h h' ih =>
    have hab : a = b := UInt32.le_antisymm (UInt32.not_lt.1 h') (UInt32.not_lt.1 h)
    rw [List.pairwise_cons] at ha hb
    refine List.pairwise_cons.2 ⟨fun x hx => ?_, ih ha.2 hb.2⟩
    rcases mem_or_mem_of_mem_union hx with hx | hx
    · exact ha.1 x hx
    · exact hab ▸ hb.1 x hx

def toList (l : DocList) : List DocId :=
  l.ids.toList

def ofAscending (ids : List DocId) (h : ids.Pairwise (· < ·)) : DocList :=
  ⟨ids.toArray, h⟩

theorem pairwise_nil : ([] : List DocId).Pairwise (· < ·) :=
  .nil

def empty : DocList :=
  ofAscending [] pairwise_nil

theorem pairwise_toList (s : Std.TreeSet DocId) : s.toList.Pairwise (· < ·) := by
  have h := Std.TreeSet.ordered_toList (t := s)
  exact h.imp Std.compare_eq_lt.1

def ofSet (s : Std.TreeSet DocId) : DocList :=
  ofAscending s.toList (pairwise_toList s)

def ofList (ids : List DocId) : DocList :=
  ofSet (.ofList ids)

def size (l : DocList) : Nat :=
  l.ids.size

def isEmpty (l : DocList) : Bool :=
  l.ids.isEmpty

def contains (l : DocList) (d : DocId) : Bool :=
  l.ids[Bisect.search l.ids (· < d)]? == some d

def and (a b : DocList) : DocList :=
  ofAscending (inter a.toList b.toList) (a.ascending.sublist (inter_sublist _ _))

def or (a b : DocList) : DocList :=
  ofAscending (union a.toList b.toList) (pairwise_union a.ascending b.ascending)

/-- The complement within a universe, which need not have all the ids of the list. -/
def not (l all : DocList) : DocList :=
  ofAscending (diff all.toList l.toList) (all.ascending.sublist (diff_sublist _ _))

end DocList

end Retrieval.Index
