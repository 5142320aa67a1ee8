import Mathlib.Order.BooleanAlgebra.Set
import Retrieval.Proofs.Index.Membership

namespace Retrieval.Index.DocList

variable {l : DocList} {d : DocId}

theorem search_eq {i : Nat} (hi : i < l.ids.size) : Bisect.search l.ids (· < l.ids[i]) = i := by
  have h : (l.ids.toList.map id).Pairwise (· < ·) := by
    rw [List.map_id]
    exact l.ascending
  exact DocId.search_eq h hi

theorem contains_iff : l.contains d ↔ d ∈ l := by
  constructor
  · intro h
    have hd := Array.mem_of_getElem? (beq_iff_eq.1 h)
    exact Array.mem_toList_iff.2 hd
  · intro h
    obtain ⟨i, hi, rfl⟩ := Array.mem_iff_getElem.1 (Array.mem_toList_iff.1 h)
    rw [contains, search_eq hi]
    simp [hi]

def toSet (l : DocList) : Set DocId :=
  {d | d ∈ l}

theorem toSet_injective : Function.Injective toSet := by
  intro a b h
  apply ext_mem
  exact Set.ext_iff.1 h

instance : LE DocList :=
  ⟨fun a b => a.toSet ⊆ b.toSet⟩

instance : LT DocList :=
  ⟨fun a b => a ≤ b ∧ ¬b ≤ a⟩

instance : Min DocList :=
  ⟨and⟩

instance : Max DocList :=
  ⟨or⟩

instance : Bot DocList :=
  ⟨empty⟩

instance : SDiff DocList :=
  ⟨fun all l => l.not all⟩

/-- Lists of ids obey all laws of sets that are not about a set of everything. -/
instance : GeneralizedBooleanAlgebra DocList :=
  toSet_injective.generalizedBooleanAlgebra toSet Iff.rfl lt_iff_le_not_ge
    (fun _ _ => Set.ext fun _ => mem_or) (fun _ _ => Set.ext fun _ => mem_and)
    (Set.ext fun d => iff_of_false (not_mem_empty d) id) (fun _ _ => Set.ext fun _ => mem_not)

/-- What the operations have to do with the ids in the lists, and what they have to do with each
other. No list need be part of another one. -/
structure SetLaws (a b c u : DocList) : Prop where
  ascending_and : (a.and b).toList.Pairwise (· < ·)
  ascending_or : (a.or b).toList.Pairwise (· < ·)
  ascending_not : (a.not u).toList.Pairwise (· < ·)
  mem_and_iff : ∀ d, d ∈ a.and b ↔ d ∈ a ∧ d ∈ b
  mem_or_iff : ∀ d, d ∈ a.or b ↔ d ∈ a ∨ d ∈ b
  mem_not_iff : ∀ d, d ∈ a.not u ↔ d ∈ u ∧ d ∉ a
  contains_and : ∀ d, (a.and b).contains d ↔ d ∈ a.and b
  contains_or : ∀ d, (a.or b).contains d ↔ d ∈ a.or b
  contains_not : ∀ d, (a.not u).contains d ↔ d ∈ a.not u
  and_comm : a.and b = b.and a
  or_comm : a.or b = b.or a
  and_assoc : (a.and b).and c = a.and (b.and c)
  or_assoc : (a.or b).or c = a.or (b.or c)
  and_self : a.and a = a
  or_self : a.or a = a
  and_or : a.and (b.or c) = (a.and b).or (a.and c)
  or_and : a.or (b.and c) = (a.or b).and (a.or c)
  not_not : (a.not u).not u = a.and u

theorem setLaws (a b c u : DocList) : SetLaws a b c u where
  ascending_and := (a.and b).ascending
  ascending_or := (a.or b).ascending
  ascending_not := (a.not u).ascending
  mem_and_iff _ := mem_and
  mem_or_iff _ := mem_or
  mem_not_iff _ := mem_not
  contains_and _ := contains_iff
  contains_or _ := contains_iff
  contains_not _ := contains_iff
  and_comm := inf_comm a b
  or_comm := sup_comm a b
  and_assoc := inf_assoc a b c
  or_assoc := sup_assoc a b c
  and_self := inf_idem a
  or_self := sup_idem a
  and_or := inf_sup_left a b c
  or_and := sup_inf_left a b c
  not_not := by
    have h : u \ (u \ a) = u ⊓ a := sdiff_sdiff_right_self
    exact h.trans (inf_comm u a)

end Retrieval.Index.DocList
