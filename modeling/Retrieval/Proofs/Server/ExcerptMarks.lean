import Mathlib.Data.String.Basic
import Retrieval.Proofs.Text.FirstMatch
import Retrieval.Server.Excerpt

namespace Retrieval.Server.Excerpt

open Text Pattern

variable {c : Char} {w cs t before m : List Char} {ws : List (List Char)} {n : Nat}

section Words

def literal (w : List Char) : Pattern :=
  w.foldr (fun c p => .seq (.char (LetterCase.fold c == LetterCase.fold ·)) p) .empty

def anyOf : List (List Char) → Pattern
  | [] => .char fun _ => false
  | w :: ws => .alt (literal w) (anyOf ws)

theorem startsWith_iff : startsWith w cs ↔
    ∃ t, t <+: cs ∧ t.map LetterCase.fold = w.map LetterCase.fold := by
  induction w generalizing cs with
  | nil => simp [startsWith]
  | cons d w ih =>
    cases cs with
    | nil => simp [startsWith]
    | cons c cs =>
      rw [startsWith, Bool.and_eq_true, beq_iff_eq, ih]
      constructor
      · rintro ⟨hc, t, ht, hm⟩
        exact ⟨c :: t, (List.prefix_cons_inj c).2 ht, by simp [hc, hm]⟩
      · rintro ⟨t, ht, hm⟩
        cases t with
        | nil => simp at hm
        | cons c' t =>
          obtain ⟨rfl, ht'⟩ := List.cons_prefix_cons.1 ht
          obtain ⟨hc, hm'⟩ := List.cons.inj hm
          exact ⟨hc.symm, t, ht', hm'⟩

theorem length_le_of_startsWith (h : startsWith w cs) : w.length ≤ cs.length := by
  obtain ⟨t, ht, hm⟩ := startsWith_iff.1 h
  have hl := congrArg List.length hm
  rw [List.length_map, List.length_map] at hl
  rw [← hl]
  exact ht.length_le

theorem rests_literal (w cs : List Char) :
    (literal w).rests cs = if startsWith w cs then [cs.drop w.length] else [] := by
  induction w generalizing cs with
  | nil => simp [literal, startsWith, rests]
  | cons d w ih =>
    rw [literal, List.foldr_cons, ← literal, rests]
    cases cs with
    | nil => simp [startsWith, rests]
    | cons c cs =>
      rw [rests, startsWith]
      by_cases hc : LetterCase.fold d = LetterCase.fold c
      · simp [hc, ih]
      · simp [hc]

theorem match?_literal (w cs : List Char) :
    (literal w).match? cs = if startsWith w cs then some (cs.take w.length) else none := by
  rw [match?, rest?, rests_literal]
  split
  · next h =>
    have hl := length_le_of_startsWith h
    rw [List.head?_cons, Option.map_some, List.length_drop, Nat.sub_sub_self hl]
  · rfl

theorem match?_anyOf_cons (w : List Char) (ws : List (List Char)) (cs : List Char) :
    (anyOf (w :: ws)).match? cs =
      if startsWith w cs then some (cs.take w.length) else (anyOf ws).match? cs := by
  rw [anyOf, match?_alt, match?_literal]
  split
  · rw [Option.some_or]
  · rw [Option.none_or]

theorem match?_anyOf (ws : List (List Char)) (cs : List Char) :
    (anyOf ws).match? cs = (wordAt? ws cs).map fun w => cs.take w.length := by
  induction ws with
  | nil => cases cs <;> rfl
  | cons w ws ih =>
    rw [match?_anyOf_cons, ih, wordAt?, wordAt?, List.find?_cons]
    cases startsWith w cs <;> rfl

theorem match?_anyOf_eq_none_iff : (anyOf ws).match? cs = none ↔ wordAt? ws cs = none := by
  rw [match?_anyOf, Option.map_eq_none_iff]

theorem startsWith_of_wordAt? (h : wordAt? ws cs = some w) : startsWith w cs := by
  rw [wordAt?] at h
  have hs := List.find?_some h
  exact hs

theorem startsWith_of_isPrefix (h : startsWith w t) (ht : t <+: cs) : startsWith w cs := by
  obtain ⟨s, hs, hm⟩ := startsWith_iff.1 h
  exact startsWith_iff.2 ⟨s, hs.trans ht, hm⟩

theorem startsWith_take (h : startsWith w cs) : startsWith w (cs.take w.length) := by
  obtain ⟨s, hs, hm⟩ := startsWith_iff.1 h
  have hl : s.length = w.length := by simpa using congrArg List.length hm
  rw [← hl, ← List.prefix_iff_eq_take.1 hs]
  exact startsWith_iff.2 ⟨s, List.prefix_rfl, hm⟩

theorem match?_eq_none_of_isPrefix (h : (anyOf ws).match? cs = none) (ht : t <+: cs) :
    (anyOf ws).match? t = none := by
  rw [match?_anyOf_eq_none_iff, wordAt?, List.find?_eq_none] at h ⊢
  intro w hw hs
  exact h w hw (startsWith_of_isPrefix hs ht)

theorem match?_of_isPrefix (h : (anyOf ws).match? cs = some m) (hm : m <+: t) (ht : t <+: cs) :
    (anyOf ws).match? t = some m := by
  induction ws with
  | nil => cases cs <;> cases h
  | cons w ws ih =>
    rw [match?_anyOf_cons] at h ⊢
    by_cases hs : startsWith w cs
    · rw [if_pos hs] at h
      obtain rfl := Option.some.inj h
      have hw : startsWith w t := startsWith_of_isPrefix (startsWith_take hs) hm
      have hp : t.take w.length <+: cs := (List.take_prefix _ t).trans ht
      have hl := length_le_of_startsWith hw
      rw [if_pos hw, List.prefix_iff_eq_take.1 hp, List.length_take_of_le hl]
    · -- a preferred word would start the whole text as well
      rw [if_neg hs] at h
      rw [if_neg fun hw => hs (startsWith_of_isPrefix hw ht)]
      exact ih h

/-- The first match in a text is the first one in a part of it that has all of that match. -/
theorem firstMatch_of_part {a x b q : List Char}
    (h : FirstMatch (anyOf ws) (a ++ x ++ b) (a ++ q) m) (hm : q ++ m <+: x) : FirstMatch (anyOf ws) x q m := by
  have hd : ∀ i ≤ x.length, x.drop i <+: (a ++ x ++ b).drop (a.length + i) := by
    intro i hi
    rw [List.append_assoc, List.drop_length_add_append, List.drop_append_of_le_length hi]
    exact List.prefix_append _ b
  have hq : q <+: x := (List.prefix_append q m).trans hm
  refine ⟨hq, ?_, fun i hi => ?_⟩
  · have hs := h.match?_drop
    rw [List.length_append] at hs
    apply match?_of_isPrefix hs _ (hd q.length hq.length_le)
    obtain ⟨rest, rfl⟩ := hm
    rw [List.append_assoc, List.drop_left]
    exact List.prefix_append m rest
  · have hn := h.match?_eq_none (a.length + i) (by simpa using hi)
    exact match?_eq_none_of_isPrefix hn (hd i (hi.le.trans hq.length_le))

end Words

section Marks

def marked (parts : List (List Char × List Char)) (rest : List Char) : List Char :=
  (parts.flatMap fun part => part.1 ++ openMark ++ part.2 ++ closeMark) ++ rest

theorem marked_cons (before t : List Char) (parts : List (List Char × List Char))
    (rest : List Char) : marked ((before, t) :: parts) rest =
      before ++ openMark ++ t ++ closeMark ++ marked parts rest := by
  rw [marked, List.flatMap_cons, List.append_assoc, ← marked]

theorem markFrom_succ (h : n < cs.length) : markFrom ws (n + 1) cs =
    cs.take (n + 1) ++ closeMark ++ markFrom ws 0 (cs.drop (n + 1)) := by
  induction n generalizing cs with
  | zero =>
    obtain ⟨c, cs, rfl⟩ := List.exists_cons_of_length_pos h
    rfl
  | succ n ih =>
    obtain ⟨c, cs, rfl⟩ := List.exists_cons_of_length_pos (Nat.zero_lt_of_lt h)
    rw [markFrom, ih (Nat.lt_of_succ_lt_succ h)]
    rfl

theorem markFrom_of_wordAt? (hw : wordAt? ws cs = some w) (h0 : w ≠ []) : markFrom ws 0 cs =
    openMark ++ cs.take w.length ++ closeMark ++ markFrom ws 0 (cs.drop w.length) := by
  have hl : w.length ≤ cs.length := length_le_of_startsWith (startsWith_of_wordAt? hw)
  obtain ⟨d, w, rfl⟩ := List.exists_cons_of_ne_nil h0
  obtain ⟨c, cs, rfl⟩ := List.exists_cons_of_length_pos (Nat.zero_lt_of_lt hl)
  rw [markFrom, hw]
  cases w with
  | nil => rfl
  | cons d' w =>
    have hn : markFrom ws (w.length + 1) cs = _ := markFrom_succ (Nat.le_of_succ_le_succ hl)
    simp [hn]

theorem markFrom_of_wordAt?_eq_none (hw : wordAt? ws (c :: cs) = none) :
    markFrom ws 0 (c :: cs) = c :: markFrom ws 0 cs := by
  rw [markFrom, hw]

theorem wordAt?_nil (h0 : [] ∉ ws) : wordAt? ws [] = none := by
  rw [wordAt?, List.find?_eq_none]
  intro w hw hs
  cases w with
  | nil => exact h0 hw
  | cons d w => cases hs

theorem exists_splits (h0 : [] ∉ ws) (cs : List Char) :
    ∃ parts rest, Splits (anyOf ws) cs parts rest ∧ markFrom ws 0 cs = marked parts rest := by
  induction hn : cs.length using Nat.strong_induction_on generalizing cs with
  | _ n ih =>
    cases cs with
    | nil =>
      refine ⟨[], [], .done fun i => ?_, rfl⟩
      rw [List.drop_nil]
      exact match?_anyOf_eq_none_iff.2 (wordAt?_nil h0)
    | cons c cs =>
      cases hw : wordAt? ws (c :: cs) with
      | none =>
        have hlt : cs.length < n := by simp [← hn]
        obtain ⟨parts, rest, hs, hm⟩ := ih _ hlt cs rfl
        rw [markFrom_of_wordAt?_eq_none hw, hm]
        obtain ⟨rfl, hs'⟩ | ⟨before, t, parts', rfl, hs'⟩ :=
          hs.cons (match?_anyOf_eq_none_iff.2 hw)
        · exact ⟨[], c :: rest, hs', rfl⟩
        · exact ⟨(c :: before, t) :: parts', rest, hs', by simp [marked_cons]⟩
      | some w =>
        have hne : w ≠ [] := fun h => h0 (h ▸ List.mem_of_find?_eq_some hw)
        have hpos := List.length_pos_of_ne_nil hne
        have hl := length_le_of_startsWith (startsWith_of_wordAt? hw)
        have hlt : ((c :: cs).drop w.length).length < n := by
          rw [List.length_drop]
          omega
        obtain ⟨parts, rest, hs, hm⟩ := ih _ hlt _ rfl
        refine ⟨([], (c :: cs).take w.length) :: parts, rest, ?_, ?_⟩
        · have hf : FirstMatch (anyOf ws) (c :: cs) [] ((c :: cs).take w.length) :=
            .here (by rw [match?_anyOf, hw, Option.map_some])
          apply Splits.next hf
          rwa [List.length_nil, Nat.zero_add, List.length_take_of_le hl]
        · rw [markFrom_of_wordAt? hw hne, hm, marked_cons]
          rfl

theorem markFrom_eq_self (h : ∀ i, (anyOf ws).match? (cs.drop i) = none) :
    markFrom ws 0 cs = cs := by
  induction cs with
  | nil => rfl
  | cons c cs ih =>
    rw [markFrom_of_wordAt?_eq_none (match?_anyOf_eq_none_iff.1 (h 0)), ih fun i => h (i + 1)]

end Marks

section Cut

theorem firstFrom_eq_none (h : ∀ i, (anyOf ws).match? (cs.drop i) = none) (n : Nat) :
    firstFrom ws n cs = none := by
  induction cs generalizing n with
  | nil => rfl
  | cons c cs ih =>
    have hw := match?_anyOf_eq_none_iff.1 (h 0)
    rw [List.drop_zero] at hw
    rw [firstFrom, hw]
    exact ih (fun i => h (i + 1)) _

theorem firstFrom_of_firstMatch (h0 : [] ∉ ws) (h : FirstMatch (anyOf ws) cs before m) (n : Nat) :
    firstFrom ws n cs = some (n + String.utf8Len before) := by
  induction before generalizing cs n with
  | nil =>
    have hm := h.match?_drop
    rw [List.length_nil, List.drop_zero, match?_anyOf] at hm
    obtain ⟨w, hw, -⟩ := Option.map_eq_some_iff.1 hm
    cases cs with
    | nil =>
      rw [wordAt?_nil h0] at hw
      cases hw
    | cons c cs =>
      rw [firstFrom, hw]
      rfl
  | cons c before ih =>
    obtain ⟨cs, rfl⟩ := h.isPrefix
    have hw := match?_anyOf_eq_none_iff.1 (h.match?_eq_none 0 (Nat.succ_pos _))
    rw [List.cons_append, List.drop_zero] at hw
    have hf : firstFrom ws (n + c.utf8Size) (before ++ cs) = _ := ih h.tail _
    rw [List.cons_append, firstFrom, hw, Option.isSome_none, if_neg Bool.false_ne_true, hf,
      String.utf8Len_cons, Nat.add_assoc, Nat.add_comm c.utf8Size]

end Cut

end Retrieval.Server.Excerpt
