import Retrieval.Decimal.Natural
import Retrieval.Proofs.Except

namespace Retrieval.Decimal.Natural

variable {limit n : Nat} {s : String}

theorem readDigits_append (limit n : Nat) (xs ys : List Char) :
    readDigits limit n (xs ++ ys) = readDigits limit n xs >>= fun m => readDigits limit m ys := by
  induction xs generalizing n with
  | nil => rfl
  | cons x xs ih =>
    rw [List.cons_append, readDigits, readDigits]
    split
    · rfl
    · dsimp only
      split
      · rfl
      · exact ih _

theorem readDigits_digitChar {d : Nat} (hd : d < 10) (h : n * 10 + d < limit) :
    readDigits limit n [d.digitChar] = .ok (n * 10 + d) := by
  have hv : d.digitChar.toNat - '0'.toNat = d := by
    rw [Nat.toNat_digitChar_of_lt_ten hd]
    exact Nat.add_sub_cancel_left _ _
  have hi : d.digitChar.isDigit := by
    rw [Nat.isDigit_digitChar, decide_eq_true_iff]
    exact hd
  rw [readDigits, hi, hv]
  simp only [Bool.not_true, Bool.false_eq_true, if_false, if_neg (Nat.not_le.2 h), readDigits]

theorem readDigits_toDigits (h : n < limit) : readDigits limit 0 (Nat.toDigits 10 n) = .ok n := by
  induction n using Nat.strongRecOn with
  | ind n ih =>
    by_cases hn : n < 10
    · rw [Nat.toDigits_of_lt_base hn, readDigits_digitChar hn (by omega)]
      simp
    · have hd := ih (n / 10) (by omega) (by omega)
      rw [Nat.toDigits_of_base_le (by omega) (by omega), readDigits_append, hd]
      have hs := Nat.div_add_mod' n 10
      refine (readDigits_digitChar (Nat.mod_lt n (by omega)) (by omega)).trans ?_
      rw [hs]

theorem notMem_toString {c : Char} (hc : ¬c.isDigit) (n : Nat) : c ∉ (toString n).toList := by
  rw [Nat.toString_eq_repr, Nat.toList_repr]
  exact fun hm => hc (Nat.isDigit_of_mem_toDigits (by decide) (by decide) hm)

theorem forall_isDigit_of_readDigits {m : Nat} {cs : List Char}
    (h : readDigits limit n cs = .ok m) : ∀ c ∈ cs, c.isDigit := by
  induction cs generalizing n with
  | nil => exact fun _ h => absurd h List.not_mem_nil
  | cons c cs ih =>
    rw [readDigits] at h
    split at h
    · cases h
    · next hc =>
      dsimp only at h
      split at h
      · cases h
      · exact List.forall_mem_cons.2 ⟨by simpa using hc, ih h⟩

theorem isDigit_or_eq_of_parse (h : parse limit s = .ok n) {c : Char} (hc : c ∈ s.toList) :
    c.isDigit ∨ c = '+' := by
  rw [parse] at h
  split at h
  · cases h
  · next hs =>
    rw [hs] at hc
    rcases List.mem_cons.1 hc with rfl | hc
    · exact .inr rfl
    · exact .inl (forall_isDigit_of_readDigits h c hc)
  · exact .inl (forall_isDigit_of_readDigits h c hc)

theorem parse_toString (h : n < limit) : parse limit (toString n) = .ok n := by
  have hd := readDigits_toDigits h
  have hall := forall_isDigit_of_readDigits hd
  rw [parse, Nat.toString_eq_repr, Nat.toList_repr]
  split
  · next hs => exact absurd hs Nat.toDigits_ne_nil
  · next hs =>
    rw [hs] at hall
    exact absurd (hall _ List.mem_cons_self) (by decide)
  · exact hd

theorem word?_toString (h : n < wordLimit) : word? (toString n) = some n := by
  rw [word?, parse_toString h]
  rfl

theorem isDigit_or_eq_of_word? (h : (word? s).isSome) {c : Char} (hc : c ∈ s.toList) :
    c.isDigit ∨ c = '+' := by
  cases hp : parse wordLimit s with
  | error e => simp [word?, hp, Except.toOption] at h
  | ok n => exact isDigit_or_eq_of_parse hp hc

end Retrieval.Decimal.Natural
