import Retrieval.Proofs.Text.Pattern

namespace Retrieval.Text.Pattern

variable {p : Pattern} {c : Char} {cs text before before' t t' rest : List Char}
  {parts : List (List Char × List Char)}

/-- A pattern matches a text first behind `before`, and there it prefers to match `t`. -/
structure FirstMatch (p : Pattern) (text before t : List Char) : Prop where
  isPrefix : before <+: text
  match?_drop : p.match? (text.drop before.length) = some t
  match?_eq_none : ∀ i < before.length, p.match? (text.drop i) = none

/-- The successive matches in a text, each with what stands between it and the one before, and the
rest of the text. -/
inductive Splits (p : Pattern) :
    List Char → List (List Char × List Char) → List Char → Prop
  | done {text : List Char} (h : ∀ i, p.match? (text.drop i) = none) : Splits p text [] text
  | next {text before t rest : List Char} {parts : List (List Char × List Char)}
    (h : FirstMatch p text before t)
    (hs : Splits p (text.drop (before.length + t.length)) parts rest) :
    Splits p text ((before, t) :: parts) rest

namespace FirstMatch

theorem here (h : p.match? cs = some t) : FirstMatch p cs [] t :=
  ⟨List.nil_prefix, h, fun _ hi => absurd hi (Nat.not_lt_zero _)⟩

theorem cons (hc : p.match? (c :: cs) = none) (h : FirstMatch p cs before t) :
    FirstMatch p (c :: cs) (c :: before) t := by
  refine ⟨(List.prefix_cons_inj c).2 h.isPrefix, h.match?_drop, fun i hi => ?_⟩
  cases i with
  | zero => exact hc
  | succ i => exact h.match?_eq_none i (Nat.lt_of_succ_lt_succ hi)

theorem tail (h : FirstMatch p (c :: cs) (c :: before) t) : FirstMatch p cs before t :=
  ⟨(List.prefix_cons_inj c).1 h.isPrefix, h.match?_drop,
    fun i hi => h.match?_eq_none (i + 1) (Nat.succ_lt_succ hi)⟩

theorem append (h : FirstMatch p text before t) : before ++ t <+: text := by
  have ht := isPrefix_of_match? h.match?_drop
  have hb := List.prefix_iff_eq_append.1 h.isPrefix
  rw [← hb]
  exact (List.prefix_append_right_inj before).2 ht

theorem length_le (h : FirstMatch p text before t) (h' : FirstMatch p text before' t') :
    before'.length ≤ before.length := by
  apply Nat.not_lt.1
  intro hl
  have hn := h'.match?_eq_none before.length hl
  rw [h.match?_drop] at hn
  cases hn

theorem unique (h : FirstMatch p text before t) (h' : FirstMatch p text before' t') :
    before = before' ∧ t = t' := by
  have hl : before.length = before'.length :=
    Nat.le_antisymm (h'.length_le h) (h.length_le h')
  have hb : before = before' := by
    rw [List.prefix_iff_eq_take.1 h.isPrefix, List.prefix_iff_eq_take.1 h'.isPrefix, hl]
  have ht := h.match?_drop
  rw [hb, h'.match?_drop] at ht
  exact ⟨hb, (Option.some.inj ht).symm⟩

end FirstMatch

theorem exists_firstMatch {i : Nat} (h : p.match? (cs.drop i) ≠ none) :
    ∃ before t, FirstMatch p cs before t := by
  induction cs generalizing i with
  | nil =>
    rw [List.drop_nil] at h
    obtain ⟨t, ht⟩ := Option.ne_none_iff_exists'.1 h
    exact ⟨[], t, .here ht⟩
  | cons c cs ih =>
    cases hc : p.match? (c :: cs) with
    | some t => exact ⟨[], t, .here hc⟩
    | none =>
      cases i with
      | zero => exact absurd hc h
      | succ i =>
        obtain ⟨before, t, hf⟩ := ih h
        exact ⟨c :: before, t, hf.cons hc⟩

namespace Splits

theorem cons (hc : p.match? (c :: cs) = none) (h : Splits p cs parts rest) :
    parts = [] ∧ Splits p (c :: cs) [] (c :: rest) ∨ ∃ before t parts',
      parts = (before, t) :: parts' ∧ Splits p (c :: cs) ((c :: before, t) :: parts') rest := by
  cases h with
  | done h =>
    refine .inl ⟨rfl, .done fun i => ?_⟩
    cases i with
    | zero => exact hc
    | succ i => exact h i
  | @next _ before t _ parts hf hs =>
    refine .inr ⟨before, t, parts, rfl, .next (hf.cons hc) ?_⟩
    rwa [List.length_cons, Nat.add_right_comm, List.drop_succ_cons]

theorem flatMap_append (h : Splits p text parts rest) :
    (parts.flatMap fun part => part.1 ++ part.2) ++ rest = text := by
  induction h with
  | done h => rfl
  | @next text before t rest parts hf hs ih =>
    have ha := List.prefix_iff_eq_append.1 hf.append
    rw [List.length_append] at ha
    rw [List.flatMap_cons, List.append_assoc, ih, ha]

theorem head?_eq (h : Splits p text parts rest) (hf : FirstMatch p text before t) :
    parts.head? = some (before, t) := by
  cases h with
  | done h =>
    have hn := hf.match?_drop
    rw [h] at hn
    cases hn
  | next hf' hs =>
    obtain ⟨rfl, rfl⟩ := hf.unique hf'
    rfl

end Splits

end Retrieval.Text.Pattern
