import Retrieval.Text.Span

namespace Retrieval.Text

variable {c : Char}

theorem toList_eq_of_eq {s : String} {cs : List Char} (h : s = String.ofList cs) :
    s.toList = cs := by
  rw [h, String.toList_ofList]

theorem CodeTable.Ranges.contains_eq_false {t : Ranges}
    (h : ∀ r ∈ t.bounds.toList, c.toNat < r.1) : t.contains c = false := by
  rw [contains]
  split
  · next r hr =>
    have hm : r ∈ t.bounds.toList := Array.mem_toList_iff.2 (Array.mem_of_getElem? hr)
    exact decide_eq_false (Nat.not_le.2 (h r hm))
  · rfl

namespace Numeral

theorem le_of_mem_letterTable : ∀ r ∈ letterTable.bounds.toList, 0x80 ≤ r.1 := by
  rw [letterTable, CodeTable.Ranges.ofRows, CodeTable.entries]
  simp only [List.flatMap_cons, List.flatMap_nil, toList_eq_of_eq rfl]
  decide +kernel

theorem le_of_mem_otherTable : ∀ r ∈ otherTable.bounds.toList, 0x80 ≤ r.1 := by
  rw [otherTable, CodeTable.Ranges.ofRows, CodeTable.entries]
  simp only [List.flatMap_cons, List.flatMap_nil, toList_eq_of_eq rfl]
  decide +kernel

theorem contains_of_lt (h : c.toNat < 0x80) : contains c = c.isDigit := by
  have hl : isLetterNumber c = false :=
    CodeTable.Ranges.contains_eq_false fun r hr => Nat.lt_of_lt_of_le h (le_of_mem_letterTable r hr)
  have ho : otherTable.contains c = false :=
    CodeTable.Ranges.contains_eq_false fun r hr => Nat.lt_of_lt_of_le h (le_of_mem_otherTable r hr)
  rw [contains, isDigit, if_pos h, hl, ho, Bool.or_false, Bool.or_false]

end Numeral

namespace Span

theorem isWordChar_of_lt (h : c.toNat < 0x80) :
    isWordChar c = (c.isAlpha || c.isDigit || c == '*') := by
  rw [isWordChar, Letter.contains, if_pos h, Numeral.contains_of_lt h]

theorem isWordChar_of_isDigit (h : Numeral.isDigit c) : isWordChar c := by
  rw [isWordChar, Numeral.contains, h, Bool.true_or, Bool.true_or, Bool.or_true, Bool.true_or]

end Span

end Retrieval.Text
