import Mathlib.Data.List.Pairwise
import Retrieval.Proofs.Text.Scan

namespace Retrieval.Text.Span

variable {cs text : List Char} {m : Match} {n i : Nat}

abbrev Place := Nat × Match

def Covers (e : Place) (i : Nat) : Prop :=
  e.1 ≤ i ∧ i < e.1 + e.2.text.length

def located (n : Nat) : List Char → List Place
  | [] => []
  | c :: cs =>
    match first? (c :: cs) with
    | some m => (n, m) :: located (n + m.text.length) (cs.drop (m.text.length - 1))
    | none => located (n + 1) cs
termination_by cs => cs.length
decreasing_by
  · simp only [List.length_drop, List.length_cons]; omega
  · simp

theorem drop_length_sub_one (h : first? cs = some m) (c : Char) (cs' : List Char) :
    cs'.drop (m.text.length - 1) = (c :: cs').drop m.text.length := by
  obtain ⟨d, ds, ht, -⟩ := exists_head h
  rw [ht, List.length_cons, Nat.add_sub_cancel, List.drop_succ_cons]

/-- Matches are passed over as a whole. -/
theorem scan_induction {motive : List Char → Prop} (nil : motive [])
    (gap : ∀ c cs, first? (c :: cs) = none → motive cs → motive (c :: cs))
    (found : ∀ cs m, first? cs = some m → motive (cs.drop m.text.length) → motive cs)
    (cs : List Char) : motive cs := by
  induction cs using scan.induct with
  | case1 => exact nil
  | case2 c cs m h ih =>
    rw [drop_length_sub_one h c] at ih
    exact found (c :: cs) m h ih
  | case3 c cs h ih => exact gap c cs h ih

theorem scan_of_some (h : first? cs = some m) : scan cs = m :: scan (cs.drop m.text.length) := by
  cases cs with
  | nil => cases h
  | cons c cs =>
    rw [scan]
    split
    · next m' h' =>
      obtain rfl := Option.some.inj (h.symm.trans h')
      rw [drop_length_sub_one h c]
    · next h' => rw [h] at h'; cases h'

theorem located_of_some (h : first? cs = some m) (n : Nat) :
    located n cs = (n, m) :: located (n + m.text.length) (cs.drop m.text.length) := by
  cases cs with
  | nil => cases h
  | cons c cs =>
    rw [located]
    split
    · next m' h' =>
      obtain rfl := Option.some.inj (h.symm.trans h')
      rw [drop_length_sub_one h c]
    · next h' => rw [h] at h'; cases h'

theorem scan_of_none {c : Char} (h : first? (c :: cs) = none) : scan (c :: cs) = scan cs := by
  rw [scan, h]

theorem located_of_none {c : Char} (h : first? (c :: cs) = none) (n : Nat) :
    located n (c :: cs) = located (n + 1) cs := by
  rw [located, h]

theorem map_snd_located (n : Nat) (cs : List Char) : (located n cs).map Prod.snd = scan cs := by
  induction cs using scan_induction generalizing n with
  | nil => rw [located, scan, List.map_nil]
  | gap c cs h ih => rw [located_of_none h, scan_of_none h, ih]
  | found cs m h ih => rw [located_of_some h, scan_of_some h, List.map_cons, ih]

theorem scan_self (h : first? cs = some m) : scan m.text = [m] := by
  rw [scan_of_some (first?_self h), List.drop_length, scan]

/-- The matches of a text from left to right, if its first character has place `n`: each is the
first one at its place, they follow each other, and there is none between them. -/
structure Leftmost (text : List Char) (n : Nat) (es : List Place) : Prop where
  first?_eq : ∀ e ∈ es, n ≤ e.1 ∧ first? (text.drop (e.1 - n)) = some e.2
  ordered : es.Pairwise fun a b => a.1 + a.2.text.length ≤ b.1
  gap : ∀ i, i < text.length → (∀ e ∈ es, ¬Covers e (n + i)) → first? (text.drop i) = none

theorem leftmost_located (n : Nat) (cs : List Char) : Leftmost cs n (located n cs) := by
  induction cs using scan_induction generalizing n with
  | nil =>
    rw [located]
    exact ⟨fun _ h => absurd h List.not_mem_nil, .nil, fun i hi => absurd hi (Nat.not_lt_zero i)⟩
  | gap c cs h ih =>
    rw [located_of_none h]
    obtain ⟨hf, ho, hg⟩ := ih (n + 1)
    refine ⟨fun e he => ?_, ho, fun i hi hn => ?_⟩
    · obtain ⟨hle, hf⟩ := hf e he
      refine ⟨by omega, ?_⟩
      rwa [show e.1 - n = (e.1 - (n + 1)) + 1 by omega, List.drop_succ_cons]
    · cases i with
      | zero => exact h
      | succ i =>
        rw [List.drop_succ_cons]
        refine hg i (by simpa using hi) fun e he => ?_
        have := hn e he
        rwa [Nat.add_right_comm, Nat.add_assoc]
  | found cs m h ih =>
    rw [located_of_some h]
    obtain ⟨hf, ho, hg⟩ := ih (n + m.text.length)
    refine ⟨List.forall_mem_cons.2 ⟨?_, fun e he => ?_⟩, List.pairwise_cons.2 ⟨?_, ho⟩,
      fun i hi hn => ?_⟩
    · rw [Nat.sub_self, List.drop_zero]
      exact ⟨Nat.le_refl n, h⟩
    · obtain ⟨hle, hf⟩ := hf e he
      rw [List.drop_drop, show m.text.length + (e.1 - (n + m.text.length)) = e.1 - n by omega] at hf
      exact ⟨by omega, hf⟩
    · exact fun e he => (hf e he).1
    · have hi' : m.text.length ≤ i := by
        have h₀ : ¬(n ≤ n + i ∧ n + i < n + m.text.length) := hn (n, m) List.mem_cons_self
        omega
      have hr : first? ((cs.drop m.text.length).drop (i - m.text.length)) = none := by
        refine hg _ (by rw [List.length_drop]; omega) fun e he => ?_
        rw [show n + m.text.length + (i - m.text.length) = n + i by omega]
        exact hn e (List.mem_cons_of_mem _ he)
      rwa [List.drop_drop, Nat.add_sub_cancel' hi'] at hr

namespace Leftmost

variable {es : List Place}

theorem exists_covers {c : Char} (h : Leftmost text n es) (hi : text[i]? = some c)
    (hc : isWordChar c) : ∃ e ∈ es, Covers e (n + i) := by
  by_contra hn
  obtain ⟨hlt, hget⟩ := List.getElem?_eq_some_iff.1 hi
  have hf := h.gap i hlt fun e he he' => hn ⟨e, he, he'⟩
  rw [List.drop_eq_getElem_cons hlt, hget] at hf
  exact not_isWordChar_of_first?_eq_none hf hc

theorem eq_of_covers (h : Leftmost text n es) {e e' : Place} (he : e ∈ es) (he' : e' ∈ es)
    (hc : Covers e i) (hc' : Covers e' i) : e = e' := by
  by_contra hne
  have hp : es.Pairwise fun a b =>
      a.1 + a.2.text.length ≤ b.1 ∨ b.1 + b.2.text.length ≤ a.1 := h.ordered.imp Or.inl
  have hs : Std.Symm fun a b : Place =>
      a.1 + a.2.text.length ≤ b.1 ∨ b.1 + b.2.text.length ≤ a.1 := ⟨fun _ _ => Or.symm⟩
  have ho := hp.forall he he' hne
  have := hc.2
  have := hc'.2
  rcases ho with ho | ho
  · have := hc'.1
    omega
  · have := hc.1
    omega

end Leftmost

end Retrieval.Text.Span
