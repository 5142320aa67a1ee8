import Mathlib.Data.List.DropRight
import Mathlib.Data.List.Infix
import Retrieval.Proofs.Text.Ascii

namespace Retrieval.Text.Span

variable {cs t : List Char} {c : Char} {inner joint : Char → Bool}

theorem drop_length_takeWhile {α : Type} (p : α → Bool) (xs : List α) :
    xs.drop (xs.takeWhile p).length = xs.dropWhile p := by
  conv_lhs => arg 2; rw [← List.takeWhile_append_dropWhile (p := p) (l := xs)]
  exact List.drop_left

section Joined

theorem joined_isPrefix (inner joint : Char → Bool) (cs : List Char) :
    joined inner joint cs <+: cs := by
  fun_induction joined inner joint cs with
  | case1 => exact List.nil_prefix
  | case2 c cs hc ih => exact (List.prefix_cons_inj c).2 ih
  | case3 => exact List.nil_prefix
  | case4 c hc d ds hj ih => exact (List.prefix_cons_inj c).2 ih
  | case5 => exact List.nil_prefix

theorem mem_joined (h : c ∈ joined inner joint cs) : inner c ∨ joint c := by
  fun_induction joined inner joint cs with
  | case1 => exact absurd h List.not_mem_nil
  | case2 d ds hd ih =>
    rcases List.mem_cons.1 h with rfl | h
    · exact .inl hd
    · exact ih h
  | case3 => exact absurd h List.not_mem_nil
  | case4 d hd e es hj ih =>
    rcases List.mem_cons.1 h with rfl | h
    · exact .inr (Bool.and_eq_true_iff.1 hj).1
    · exact ih h
  | case5 => exact absurd h List.not_mem_nil

theorem joined_cons_of_inner (h : inner c) (cs : List Char) :
    joined inner joint (c :: cs) = c :: joined inner joint cs := by
  rw [joined.eq_def]
  exact if_pos h

theorem joined_cons_of_joint {d : Char} (h : ¬inner c) (hj : (joint c && inner d) = true)
    (cs : List Char) :
    joined inner joint (c :: d :: cs) = c :: joined inner joint (d :: cs) := by
  rw [joined.eq_def]
  simp only [if_neg h, hj, if_true]

theorem joined_joined (inner joint : Char → Bool) (cs : List Char) :
    joined inner joint (joined inner joint cs) = joined inner joint cs := by
  fun_induction joined inner joint cs with
  | case1 => rfl
  | case2 c cs hc ih => rw [joined_cons_of_inner hc, ih]
  | case3 => rfl
  | case4 c hc d ds hj ih =>
    rw [joined_cons_of_inner (Bool.and_eq_true_iff.1 hj).2] at ih ⊢
    rw [joined_cons_of_joint hc hj, ih]
  | case5 => rfl

end Joined

section Address

def address (cs : List Char) : List Char :=
  (cs.takeWhile isUrlChar).rdropWhile fun c => !isUrlEnd c

theorem address_isPrefix (cs : List Char) : address cs <+: cs :=
  (List.rdropWhile_prefix _ _).trans (List.takeWhile_prefix _)

theorem address_address (cs : List Char) : address (address cs) = address cs := by
  have hrun : ∀ c ∈ address cs, isUrlChar c := fun c hc =>
    List.mem_takeWhile_imp ((List.rdropWhile_prefix _ _).subset hc)
  rw [address, List.takeWhile_eq_self_iff.2 hrun]
  exact List.rdropWhile_idempotent _ _

end Address

section WordChar

theorem ne_of_isWordChar {d : Char} (hd : isWordChar d = false) (hc : isWordChar c) : c ≠ d := by
  rintro rfl
  rw [hd] at hc
  cases hc

theorem isWordChar_lt : isWordChar '<' = false := by
  rw [isWordChar_of_lt (by decide)]
  decide

theorem isWordChar_colon : isWordChar ':' = false := by
  rw [isWordChar_of_lt (by decide)]
  decide

theorem isWordChar_of_isSeparator (h : isSeparator c) : isWordChar c = false := by
  have hc : c = '.' ∨ c = ',' := by simpa [isSeparator] using h
  rcases hc with rfl | rfl <;> rw [isWordChar_of_lt (by decide)] <;> decide

end WordChar

section Kinds

theorem tag?_eq_some_iff : tag? cs = some t ↔ ∃ behind rest, cs = '<' :: behind ∧
    behind.dropWhile (fun c => c != '<' && c != '>') = '>' :: rest ∧
    t = '<' :: behind.takeWhile (fun c => c != '<' && c != '>') ++ ['>'] := by
  rw [tag?.eq_def]
  split
  · next behind =>
    simp only [drop_length_takeWhile]
    split
    · next rest hr => 
      constructor
      · intro h
        exact ⟨behind, rest, rfl, hr, (Option.some.inj h).symm⟩
      · rintro ⟨_, _, h, _, rfl⟩
        rw [(List.cons.inj h).2]
    · next hn =>
      refine iff_of_false nofun ?_
      rintro ⟨_, rest, h, hr, _⟩
      rw [← (List.cons.inj h).2] at hr
      exact hn rest hr
  · next hn =>
    refine iff_of_false nofun ?_
    rintro ⟨behind, _, h, _⟩
    exact hn behind h

theorem url?_eq_some_iff : url? cs = some t ↔ ∃ s,
    schemes.find? (·.toList.isPrefixOf cs) = some s ∧ address (cs.drop s.length) ≠ [] ∧
    t = s.toList ++ address (cs.drop s.length) := by
  rw [url?]
  split
  · next hs => simp [hs]
  · next s hs =>
    simp only [hs, Option.some.injEq, exists_eq_left', address, List.rdropWhile]
    split
    · next ha => simp only [ha, ne_eq, not_true_eq_false, false_and, reduceCtorEq]
    · next ha => rw [and_iff_right ha, Option.some.injEq, eq_comm]

theorem time?_eq_some_iff : time? cs = some t ↔ ∃ rest, cs.takeWhile Numeral.isDigit ≠ [] ∧
    cs.dropWhile Numeral.isDigit = ':' :: rest ∧ rest.takeWhile Numeral.isDigit ≠ [] ∧
    t = cs.takeWhile Numeral.isDigit ++ ':' :: rest.takeWhile Numeral.isDigit := by
  rw [time?]
  simp only [drop_length_takeWhile]
  split
  · next _ _ h rest hh hr =>
    simp only [hh, hr, List.cons.injEq, true_and, exists_eq_left', ne_eq, reduceCtorEq,
      not_false_eq_true]
    split
    · next hm => simp only [hm, not_true_eq_false, false_and, reduceCtorEq]
    · next hm => rw [and_iff_right hm, Option.some.injEq, eq_comm]
  · next hn =>
    refine iff_of_false nofun ?_
    rintro ⟨rest, hh, hr, _⟩
    obtain ⟨c, hours, hh⟩ := List.exists_cons_of_ne_nil hh
    exact hn c hours rest hh hr

theorem number?_cons_eq_some_iff : number? (c :: cs) = some t ↔ Numeral.isDigit c ∧
    (joined Numeral.isDigit isSeparator cs).any isSeparator ∧
    t = c :: joined Numeral.isDigit isSeparator cs := by
  rw [number?]
  split
  · next hc =>
    dsimp only
    split
    · next hs => simp only [hc, hs, Option.some.injEq, eq_comm (a := t), true_and]
    · next hs => simp only [hs, false_and, and_false, reduceCtorEq]
  · next hc => simp only [hc, false_and, reduceCtorEq]

theorem word?_cons_eq_some_iff : word? (c :: cs) = some t ↔ isWordChar c ∧
    t = c :: joined isWordChar (· == '\'') cs := by
  rw [word?]
  split
  · next hc => simp only [hc, Option.some.injEq, eq_comm (a := t), true_and]
  · next hc => simp only [hc, false_and, reduceCtorEq]

end Kinds

end Retrieval.Text.Span
