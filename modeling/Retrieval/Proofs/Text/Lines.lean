import Retrieval.Text.Lines

namespace Retrieval.Text.Lines

variable {α : Type} [BEq α]

theorem splitOn_ne_nil (sep : α) (xs : List α) : splitOn sep xs ≠ [] := by
  cases xs with
  | nil => exact List.cons_ne_nil _ _
  | cons c cs =>
    rw [splitOn]
    split
    · exact List.cons_ne_nil _ _
    · split <;> exact List.cons_ne_nil _ _

theorem splitOn_eq (sep : α) (xs : List α) : splitOn sep xs = xs.splitOn sep := by
  induction xs with
  | nil => simp [splitOn]
  | cons c cs ih =>
    rw [splitOn, List.splitOn_cons_eq_if_modifyHead, ← ih]
    split
    · rfl
    · split
      · next h => exact absurd h (splitOn_ne_nil sep cs)
      · next h => rw [h, List.modifyHead_cons]

theorem length_splitOn_le (sep : α) (xs : List α) :
    (splitOn sep xs).length ≤ xs.length + 1 := by
  induction xs with
  | nil => exact Nat.le_refl _
  | cons c cs ih =>
    rw [splitOn, List.length_cons]
    split
    · rw [List.length_cons]
      omega
    · split
      · exact Nat.le_add_left _ _
      · next h =>
        rw [h, List.length_cons] at ih
        rw [List.length_cons]
        omega

theorem exists_splitOn_append {sep : α} [LawfulBEq α] (xs : List α) {ys : List α} (h : sep ∉ ys) :
    ∃ ls l, splitOn sep (xs ++ ys) = ls ++ [l ++ ys] := by
  induction xs with
  | nil => exact ⟨[], [], by rw [List.nil_append, splitOn_eq, List.splitOn_eq_singleton h]; rfl⟩
  | cons x xs ih =>
    obtain ⟨ls, l, hl⟩ := ih
    rw [List.cons_append, splitOn, hl]
    split
    · exact ⟨[] :: ls, l, rfl⟩
    · cases ls with
      | nil => exact ⟨[], x :: l, rfl⟩
      | cons k ls => exact ⟨(x :: k) :: ls, l, rfl⟩

omit [BEq α] in
theorem intercalate_append_singleton {c : α} {ls : List (List α)} (hls : ls ≠ []) (l : List α) :
    List.intercalate [c] (ls ++ [l]) = List.intercalate [c] ls ++ c :: l := by
  induction ls with
  | nil => exact absurd rfl hls
  | cons k ls ih =>
    cases ls with
    | nil => simp
    | cons k' ls =>
      rw [List.cons_append, List.cons_append, List.intercalate_cons_cons, ← List.cons_append,
        ih (List.cons_ne_nil _ _), List.intercalate_cons_cons, List.append_assoc,
        List.append_assoc, List.append_assoc]

end Retrieval.Text.Lines
