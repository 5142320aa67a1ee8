import Retrieval.Article.Source
import Retrieval.Proofs.Decimal.Natural
import Retrieval.Proofs.Text.Lines

namespace Retrieval.Article.Source

open Decimal Text

variable {path other name s : String} {n m : Nat}

def EndsInNumber (path : String) : Prop :=
  ∃ name n : String, path = name ++ "#" ++ n ∧ (Natural.word? n).isSome

theorem toList_hashed (name s : String) :
    (name ++ "#" ++ s).toList = name.toList ++ '#' :: s.toList := by
  rw [String.toList_append, String.toList_append, List.append_assoc]
  rfl

theorem hash_notMem_of_word? (h : (Natural.word? s).isSome) : '#' ∉ s.toList := fun hm => by
  rcases Natural.isDigit_or_eq_of_word? h hm with hd | he
  · exact absurd hd (by decide)
  · exact absurd he (by decide)

theorem toList_toString_inj (h : (toString n).toList = (toString m).toList) : n = m := by
  simp only [Nat.toString_eq_repr, Nat.toList_repr] at h
  have hv := congrArg (Nat.ofDigitChars 10 · 0) h
  rwa [Nat.ofDigitChars_ten_toDigits, Nat.ofDigitChars_ten_toDigits] at hv

theorem splitOn_hashed (name : String) (hs : '#' ∉ s.toList) :
    Lines.splitOn '#' (name ++ "#" ++ s).toList = name.toList.splitOn '#' ++ [s.toList] := by
  rw [Lines.splitOn_eq, toList_hashed, List.splitOn_append_cons_self,
    List.splitOn_eq_singleton hs]

theorem file_of_number (h : (Natural.word? s).isSome) : file (name ++ "#" ++ s) = name := by
  obtain ⟨c, cs, hc⟩ : ∃ c cs, (name.toList.splitOn '#').reverse = c :: cs :=
    List.exists_cons_of_ne_nil (by simp)
  rw [file, splitOn_hashed name (hash_notMem_of_word? h), List.reverse_append, hc]
  simp only [List.reverse_singleton, List.singleton_append, String.ofList_toList, h, if_true]
  rw [← hc, List.reverse_reverse, List.intercalate_splitOn, String.ofList_toList]

theorem file_numbered (h : n < Natural.wordLimit) : file (numbered path n) = path := by
  refine file_of_number ?_
  rw [Natural.word?_toString h]
  rfl

theorem file_eq_self (h : ¬EndsInNumber path) : file path = path := by
  rw [file]
  split
  · next n c cs hs =>
    rw [if_neg]
    intro hn
    have hp : path.toList.splitOn '#' = (c :: cs).reverse ++ [n] := by
      rw [← Lines.splitOn_eq, ← List.reverse_reverse (Lines.splitOn _ _), hs, List.reverse_cons]
    refine h ⟨String.ofList (List.intercalate ['#'] (c :: cs).reverse), String.ofList n, ?_, hn⟩
    rw [← String.toList_inj, toList_hashed, String.toList_ofList, String.toList_ofList,
      ← Lines.intercalate_append_singleton (by simp), ← hp, List.intercalate_splitOn]
  · rfl

theorem numbered_inj : numbered path n = numbered other m ↔ path = other ∧ n = m := by
  constructor
  · intro h
    have hs := splitOn_hashed path (Natural.notMem_toString (by decide) n)
    have hs' := splitOn_hashed other (Natural.notMem_toString (by decide) m)
    rw [numbered, numbered] at h
    rw [h, hs'] at hs
    obtain ⟨hp, hn⟩ := List.append_inj' hs rfl
    constructor
    · have hj := congrArg (List.intercalate ['#']) hp
      rw [List.intercalate_splitOn, List.intercalate_splitOn] at hj
      exact (String.toList_inj.1 hj).symm
    · exact (toList_toString_inj (List.singleton_inj.1 hn)).symm
  · rintro ⟨rfl, rfl⟩
    rfl

end Retrieval.Article.Source
