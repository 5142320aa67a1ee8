import Mathlib.Data.List.Sort
import Mathlib.Tactic.Tauto
import Retrieval.Index.DocList

namespace Retrieval.Index.DocList

theorem not_mem_of_lt {x a : DocId} {as : List DocId} (ha : (a :: as).Pairwise (· < ·))
    (h : x < a) : x ∉ a :: as := by
  intro hx
  rcases List.mem_cons.1 hx with rfl | hx
  · exact UInt32.lt_irrefl x h
  · exact UInt32.lt_asymm h (List.rel_of_pairwise_cons ha hx)

theorem mem_inter {x : DocId} {as bs : List DocId} (ha : as.Pairwise (· < ·))
    (hb : bs.Pairwise (· < ·)) : x ∈ inter as bs ↔ x ∈ as ∧ x ∈ bs := by
  fun_induction inter as bs with
  | case1 => simp
  | case2 => simp
  | case3 a as b bs h ih =>
    have hx : x = a → x ∉ b :: bs := fun hx => not_mem_of_lt hb (hx ▸ h)
    rw [ih ha.of_cons hb, List.mem_cons (a := x) (b := a)]
    tauto
  | case4 a as b bs _ h ih =>
    have hx : x = b → x ∉ a :: as := fun hx => not_mem_of_lt ha (hx ▸ h)
    rw [ih ha hb.of_cons, List.mem_cons (a := x) (b := b)]
    tauto
  | case5 a as b bs h h' ih =>
    have hab : a = b := UInt32.le_antisymm (UInt32.not_lt.1 h') (UInt32.not_lt.1 h)
    subst hab
    rw [List.mem_cons, ih ha.of_cons hb.of_cons, List.mem_cons, List.mem_cons]
    tauto

theorem mem_union {x : DocId} {as bs : List DocId} : x ∈ union as bs ↔ x ∈ as ∨ x ∈ bs := by
  refine ⟨mem_or_mem_of_mem_union, fun h => ?_⟩
  fun_induction union as bs with
  | case1 => simpa using h
  | case2 => simpa using h
  | case3 a as b bs _ ih =>
    rw [List.mem_cons] at h ⊢
    tauto
  | case4 a as b bs _ _ ih =>
    rw [List.mem_cons (b := b)] at h
    rw [List.mem_cons]
    tauto
  | case5 a as b bs h₁ h₂ ih =>
    have hab : a = b := UInt32.le_antisymm (UInt32.not_lt.1 h₂) (UInt32.not_lt.1 h₁)
    subst hab
    rw [List.mem_cons, List.mem_cons] at h
    rw [List.mem_cons]
    tauto

theorem mem_diff {x : DocId} {us ds : List DocId} (hu : us.Pairwise (· < ·))
    (hd : ds.Pairwise (· < ·)) : x ∈ diff us ds ↔ x ∈ us ∧ x ∉ ds := by
  fun_induction diff us ds with
  | case1 => simp
  | case2 => simp
  | case3 u us d ds h ih =>
    have hx : x = u → x ∉ d :: ds := fun hx => not_mem_of_lt hd (hx ▸ h)
    rw [List.mem_cons, ih hu.of_cons hd, List.mem_cons (b := u)]
    tauto
  | case4 u us d ds _ h ih =>
    have hx : x = d → x ∉ u :: us := fun hx => not_mem_of_lt hu (hx ▸ h)
    rw [ih hu hd.of_cons, List.mem_cons (b := d)]
    tauto
  | case5 u us d ds h h' ih =>
    have hud : u = d := UInt32.le_antisymm (UInt32.not_lt.1 h') (UInt32.not_lt.1 h)
    subst hud
    have hx : x = u → x ∉ us := fun hx hm =>
      UInt32.lt_irrefl u (hx ▸ List.rel_of_pairwise_cons hu hm)
    rw [ih hu.of_cons hd.of_cons, List.mem_cons, List.mem_cons]
    tauto

instance : Membership DocId DocList :=
  ⟨fun l d => d ∈ l.toList⟩

theorem mem_toList {d : DocId} {l : DocList} : d ∈ l.toList ↔ d ∈ l :=
  Iff.rfl

@[simp]
theorem not_mem_empty (d : DocId) : d ∉ empty :=
  List.not_mem_nil

@[simp]
theorem mem_and {d : DocId} {a b : DocList} : d ∈ a.and b ↔ d ∈ a ∧ d ∈ b :=
  mem_inter a.ascending b.ascending

@[simp]
theorem mem_or {d : DocId} {a b : DocList} : d ∈ a.or b ↔ d ∈ a ∨ d ∈ b :=
  mem_union

@[simp]
theorem mem_not {d : DocId} {l all : DocList} : d ∈ l.not all ↔ d ∈ all ∧ d ∉ l :=
  mem_diff all.ascending l.ascending

theorem not_mem_of_isEmpty {l : DocList} (h : l.isEmpty) (d : DocId) : d ∉ l := by
  intro hd
  have hl : l.toList = [] := by simpa [isEmpty, toList] using h
  rw [← mem_toList, hl] at hd
  exact List.not_mem_nil hd

/-- The order of the ids is given by the ids themselves. -/
theorem ext_mem {a b : DocList} (h : ∀ d, d ∈ a ↔ d ∈ b) : a = b := by
  have hl : a.toList = b.toList := a.ascending.eq_of_mem_iff b.ascending h
  cases a
  cases b
  simp only [toList] at hl
  simpa using hl

theorem nodup_toList (l : DocList) : l.toList.Nodup :=
  l.ascending.imp UInt32.ne_of_lt

end Retrieval.Index.DocList
