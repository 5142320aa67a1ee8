import Retrieval.Proofs.Text.SpanPattern

namespace Retrieval.Text.Span

open Pattern

variable {c : Char} {cs t : List Char}

section Self

theorem tag?_self (h : tag? cs = some t) : tag? t = some t := by
  obtain ⟨behind, rest, -, -, rfl⟩ := tag?_eq_some_iff.1 h
  have ha : ∀ c ∈ behind.takeWhile (fun c => c != '<' && c != '>'),
      (c != '<' && c != '>') = true := List.all_eq_true.1 List.all_takeWhile
  refine tag?_eq_some_iff.2 ⟨behind.takeWhile (fun c => c != '<' && c != '>') ++ ['>'], [], rfl,
    ?_, ?_⟩
  · rw [List.dropWhile_append_of_pos ha]
    rfl
  · rw [List.takeWhile_append_of_pos ha]
    simp

theorem url?_self (h : url? cs = some t) : url? t = some t := by
  have hp : t <+: cs := isPrefix_of_match? ((match?_url cs).trans h)
  obtain ⟨s, hs, ha, rfl⟩ := url?_eq_some_iff.1 h
  refine url?_eq_some_iff.2 ⟨s, ?_, ?_⟩
  · obtain ⟨-, before, behind, he, hn⟩ := List.find?_eq_some_iff_append.1 hs
    refine List.find?_eq_some_iff_append.2 ⟨?_, before, behind, he, fun s' hs' => ?_⟩
    · exact List.isPrefixOf_iff_prefix.2 (List.prefix_append _ _)
    · have hn := hn s' hs'
      rw [Bool.not_eq_true', Bool.eq_false_iff, ne_eq, List.isPrefixOf_iff_prefix] at hn ⊢
      exact fun h => hn (h.trans hp)
  · rw [← String.length_toList, List.drop_left, address_address, String.length_toList]
    exact ⟨ha, rfl⟩

theorem time?_self (h : time? cs = some t) : time? t = some t := by
  obtain ⟨rest, hh, -, hm, rfl⟩ := time?_eq_some_iff.1 h
  have hc : ¬Numeral.isDigit ':' := by decide
  have hd : ∀ c ∈ cs.takeWhile Numeral.isDigit, Numeral.isDigit c :=
    fun c hc => List.mem_takeWhile_imp hc
  refine time?_eq_some_iff.2 ⟨rest.takeWhile Numeral.isDigit, ?_⟩
  rw [List.takeWhile_append_of_pos hd, List.dropWhile_append_of_pos hd,
    List.takeWhile_cons_of_neg hc, List.dropWhile_cons_of_neg hc, List.append_nil,
    List.takeWhile_idem]
  exact ⟨hh, rfl, hm, rfl⟩

theorem number?_self (h : number? cs = some t) : number? t = some t := by
  cases cs with
  | nil => cases h
  | cons c cs =>
    obtain ⟨hc, hs, rfl⟩ := number?_cons_eq_some_iff.1 h
    rw [number?_cons_eq_some_iff, joined_joined]
    exact ⟨hc, hs, rfl⟩

theorem word?_self (h : word? cs = some t) : word? t = some t := by
  cases cs with
  | nil => cases h
  | cons c cs =>
    obtain ⟨hc, rfl⟩ := word?_cons_eq_some_iff.1 h
    rw [word?_cons_eq_some_iff, joined_joined]
    exact ⟨hc, rfl⟩

end Self

section Kinds

variable {m : Match}

theorem tag?_eq_none_of_isWordChar (h : isWordChar c) (cs : List Char) :
    tag? (c :: cs) = none := by
  refine Option.eq_none_iff_forall_ne_some.2 fun t ht => ?_
  obtain ⟨_, _, he, _⟩ := tag?_eq_some_iff.1 ht
  exact ne_of_isWordChar isWordChar_lt h (List.cons.inj he).1

theorem url?_eq_none (h : ∀ s ∈ schemes, ¬s.toList <+: cs) : url? cs = none := by
  refine Option.eq_none_iff_forall_ne_some.2 fun t ht => ?_
  obtain ⟨s, hs, _⟩ := url?_eq_some_iff.1 ht
  exact h s (List.mem_of_find?_eq_some hs)
    (List.isPrefixOf_iff_prefix.1 (List.find?_eq_some_iff_append.1 hs).1)

theorem url?_eq_none_of_notMem (h : ':' ∉ cs) : url? cs = none := by
  have hs : ∀ s ∈ schemes, ':' ∈ s.toList := by decide
  exact url?_eq_none fun s hm hp => h (hp.subset (hs s hm))

theorem exists_head_of_mem_schemes {s : String} (h : s ∈ schemes) :
    ∃ d ds, s.toList = d :: ds ∧ isWordChar d ∧ Numeral.isDigit d = false := by
  have hd : s.toList.head? = some 'h' ∨ s.toList.head? = some 'f' := by
    revert s
    decide
  have hw : ∀ d, d = 'h' ∨ d = 'f' → isWordChar d ∧ Numeral.isDigit d = false := by
    rintro d (rfl | rfl) <;> rw [isWordChar_of_lt (by decide)] <;> decide
  cases hs : s.toList with
  | nil => simp [hs] at hd
  | cons d ds => exact ⟨d, ds, rfl, hw d (by simpa [hs] using hd)⟩

theorem url?_eq_none_of_isDigit (h : Numeral.isDigit c) (cs : List Char) :
    url? (c :: cs) = none := by
  refine url?_eq_none fun s hm hp => ?_
  obtain ⟨d, ds, he, -, hd⟩ := exists_head_of_mem_schemes hm
  rw [he, List.cons_prefix_cons] at hp
  rw [hp.1, h] at hd
  cases hd

theorem time?_eq_none_of_notMem (h : ':' ∉ cs) : time? cs = none := by
  refine Option.eq_none_iff_forall_ne_some.2 fun t ht => ?_
  obtain ⟨_, _, _, _, rfl⟩ := time?_eq_some_iff.1 ht
  exact h ((isPrefix_of_match? ((match?_time cs).trans ht)).subset (by simp))

theorem number?_eq_none_of_notMem (h : ∀ c ∈ cs, ¬isSeparator c) : number? cs = none := by
  refine Option.eq_none_iff_forall_ne_some.2 fun t ht => ?_
  cases cs with
  | nil => cases ht
  | cons c cs =>
    obtain ⟨_, hs, _⟩ := number?_cons_eq_some_iff.1 ht
    obtain ⟨d, hd, hj⟩ := List.any_eq_true.1 hs
    exact h d (List.mem_cons_of_mem c ((joined_isPrefix _ _ cs).subset hd)) hj

theorem first?_cases (h : first? cs = some m) :
    (m.kind = .tag ∧ tag? cs = some m.text) ∨ (m.kind = .url ∧ url? cs = some m.text) ∨
      (m.kind = .time ∧ time? cs = some m.text) ∨ (m.kind = .number ∧ number? cs = some m.text) ∨
      (m.kind = .word ∧ word? cs = some m.text) := by
  simp only [first?, Option.or_eq_some_iff, Option.map_eq_some_iff] at h
  obtain ⟨t, ht, rfl⟩ | ⟨-, ⟨t, ht, rfl⟩ | ⟨-, ⟨t, ht, rfl⟩ |
    ⟨-, ⟨t, ht, rfl⟩ | ⟨-, t, ht, rfl⟩⟩⟩⟩ := h
  · exact .inl ⟨rfl, ht⟩
  · exact .inr (.inl ⟨rfl, ht⟩)
  · exact .inr (.inr (.inl ⟨rfl, ht⟩))
  · exact .inr (.inr (.inr (.inl ⟨rfl, ht⟩)))
  · exact .inr (.inr (.inr (.inr ⟨rfl, ht⟩)))

theorem exists_head_of_time? (h : time? cs = some t) :
    ∃ d ds, t = d :: ds ∧ Numeral.isDigit d := by
  obtain ⟨rest, hh, -, -, rfl⟩ := time?_eq_some_iff.1 h
  obtain ⟨d, ds, hd⟩ := List.exists_cons_of_ne_nil hh
  rw [hd]
  exact ⟨d, _, rfl, List.mem_takeWhile_imp (hd ▸ List.mem_cons_self)⟩

theorem exists_head (h : first? cs = some m) :
    ∃ d ds, m.text = d :: ds ∧ (m.kind ≠ .tag → isWordChar d) := by
  obtain ⟨hk, h⟩ | ⟨-, h⟩ | ⟨-, h⟩ | ⟨-, h⟩ | ⟨-, h⟩ := first?_cases h
  · obtain ⟨_, _, -, -, ht⟩ := tag?_eq_some_iff.1 h
    exact ⟨_, _, ht, fun hn => absurd hk hn⟩
  · obtain ⟨s, hs, -, ht⟩ := url?_eq_some_iff.1 h
    obtain ⟨d, ds, he, hd, -⟩ := exists_head_of_mem_schemes (List.mem_of_find?_eq_some hs)
    rw [he] at ht
    exact ⟨d, _, ht, fun _ => hd⟩
  · obtain ⟨d, ds, ht, hd⟩ := exists_head_of_time? h
    exact ⟨d, ds, ht, fun _ => isWordChar_of_isDigit hd⟩
  · cases cs with
    | nil => cases h
    | cons c cs =>
      obtain ⟨hc, -, ht⟩ := number?_cons_eq_some_iff.1 h
      exact ⟨c, _, ht, fun _ => isWordChar_of_isDigit hc⟩
  · cases cs with
    | nil => cases h
    | cons c cs =>
      obtain ⟨hc, ht⟩ := word?_cons_eq_some_iff.1 h
      exact ⟨c, _, ht, fun _ => hc⟩

theorem first?_ne_nil (h : first? cs = some m) : m.text ≠ [] := by
  obtain ⟨d, ds, ht, -⟩ := exists_head h
  rw [ht]
  exact List.cons_ne_nil d ds

theorem tag?_text_eq_none (h : first? cs = some m) (hk : m.kind ≠ .tag) :
    tag? m.text = none := by
  obtain ⟨d, ds, ht, hd⟩ := exists_head h
  rw [ht, tag?_eq_none_of_isWordChar (hd hk)]

theorem colon_notMem_of_number? (h : number? cs = some t) : ':' ∉ t := by
  cases cs with
  | nil => cases h
  | cons c cs =>
    obtain ⟨hc, -, rfl⟩ := number?_cons_eq_some_iff.1 h
    refine List.not_mem_cons_of_ne_of_not_mem ?_ fun hm => ?_
    · exact (ne_of_isWordChar isWordChar_colon (isWordChar_of_isDigit hc)).symm
    · rcases mem_joined hm with hd | hs
      · exact absurd hd (by decide)
      · exact absurd hs (by decide)

theorem isWordChar_or_eq_of_word? (h : word? cs = some t) (hc : c ∈ t) :
    isWordChar c ∨ c = '\'' := by
  cases cs with
  | nil => cases h
  | cons d cs =>
    obtain ⟨hd, rfl⟩ := word?_cons_eq_some_iff.1 h
    rcases List.mem_cons.1 hc with rfl | hm
    · exact .inl hd
    · exact (mem_joined hm).imp_right eq_of_beq

/-- A match is a match of itself, of the same kind. -/
theorem first?_self (h : first? cs = some m) : first? m.text = some m := by
  obtain ⟨kind, t⟩ := m
  have htag : kind ≠ .tag → tag? t = none := tag?_text_eq_none h
  obtain ⟨rfl, h⟩ | ⟨rfl, h⟩ | ⟨rfl, h⟩ | ⟨rfl, h⟩ | ⟨rfl, h⟩ := first?_cases h
  case inl =>
    rw [first?, tag?_self h]
    rfl
  case inr.inl =>
    rw [first?, htag (by decide), url?_self h]
    rfl
  case inr.inr.inl =>
    obtain ⟨d, ds, ht, hd⟩ := exists_head_of_time? h
    have hurl : url? t = none := by
      rw [show t = d :: ds from ht, url?_eq_none_of_isDigit hd]
    rw [first?, htag (by decide), hurl, time?_self h]
    rfl
  case inr.inr.inr.inl =>
    have hcolon := colon_notMem_of_number? h
    rw [first?, htag (by decide), url?_eq_none_of_notMem hcolon, time?_eq_none_of_notMem hcolon,
      number?_self h]
    rfl
  case inr.inr.inr.inr =>
    have hcolon : ':' ∉ t := fun hm => by
      rcases isWordChar_or_eq_of_word? h hm with hw | he
      · exact absurd hw (by rw [isWordChar_colon]; exact Bool.false_ne_true)
      · exact absurd he (by decide)
    have hsep : ∀ c ∈ t, ¬isSeparator c := fun c hm hs => by
      rcases isWordChar_or_eq_of_word? h hm with hw | rfl
      · rw [isWordChar_of_isSeparator hs] at hw
        cases hw
      · exact absurd hs (by decide)
    rw [first?, htag (by decide), url?_eq_none_of_notMem hcolon, time?_eq_none_of_notMem hcolon,
      number?_eq_none_of_notMem hsep, word?_self h]
    rfl

theorem not_isWordChar_of_first?_eq_none (h : first? (c :: cs) = none) : ¬isWordChar c := by
  intro hc
  have hw : word? (c :: cs) = none := by
    simp only [first?, Option.or_eq_none_iff, Option.map_eq_none_iff] at h
    exact h.2.2.2.2
  rw [word?, if_pos hc] at hw
  cases hw

end Kinds

end Retrieval.Text.Span
