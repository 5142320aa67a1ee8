import Mathlib.Data.List.Find
import Retrieval.Article.Basic
import Retrieval.Proofs.Terms.Spans

namespace Retrieval.Text.Span

variable {c : Char} {cs bs t : List Char} {p inner joint : Char → Bool}

section Lists

theorem takeWhile_append_cons (h : ¬p c) (cs bs : List Char) :
    (cs ++ c :: bs).takeWhile p = cs.takeWhile p := by
  induction cs with
  | nil => simp [h]
  | cons d cs ih => by_cases hd : p d <;> simp [hd, ih]

theorem dropWhile_append_cons (h : ¬p c) (cs bs : List Char) :
    (cs ++ c :: bs).dropWhile p = cs.dropWhile p ++ c :: bs := by
  induction cs with
  | nil => simp [h]
  | cons d cs ih => by_cases hd : p d <;> simp [hd, ih]

theorem isPrefix_append_cons_iff (h : c ∉ t) : t <+: cs ++ c :: bs ↔ t <+: cs := by
  induction t generalizing cs with
  | nil => simp
  | cons d t ih =>
    obtain ⟨hd, ht⟩ := not_or.1 (mt List.mem_cons.2 h)
    cases cs with
    | nil => simp [Ne.symm hd]
    | cons e cs => simp [ih ht]

theorem joined_append_cons (hi : ¬inner c) (hj : ¬joint c) (cs bs : List Char) :
    joined inner joint (cs ++ c :: bs) = joined inner joint cs := by
  fun_induction joined inner joint cs with
  | case1 =>
    rw [List.nil_append, joined.eq_def]
    cases bs <;> simp [hi, hj]
  | case2 d ds hd ih => rw [List.cons_append, joined_cons_of_inner hd, ih]
  | case3 d hd =>
    rw [List.cons_append, List.nil_append, joined.eq_def]
    simp [hd, hi]
  | case4 d hd e es hde ih =>
    rw [List.cons_append, List.cons_append, joined_cons_of_joint hd hde, ← List.cons_append, ih]
  | case5 d hd e es hde =>
    rw [List.cons_append, List.cons_append, joined.eq_def]
    simp only [if_neg hd, hde, Bool.false_eq_true, if_false]

end Lists

section Kinds

theorem isWordChar_space : isWordChar ' ' = false := by
  rw [isWordChar_of_lt (by decide)]
  decide

theorem tag?_eq_some_iff_inside : tag? cs = some t ↔ ∃ inside rest,
    cs = '<' :: inside ++ '>' :: rest ∧ (∀ c ∈ inside, c ≠ '<' ∧ c ≠ '>') ∧
      t = '<' :: inside ++ ['>'] := by
  rw [tag?_eq_some_iff]
  constructor
  · rintro ⟨behind, rest, rfl, hr, rfl⟩
    refine ⟨_, rest, ?_, fun c hc => ?_, rfl⟩
    · rw [List.cons_append, ← hr, List.takeWhile_append_dropWhile]
    · simpa using List.mem_takeWhile_imp hc
  · rintro ⟨inside, rest, rfl, hi, rfl⟩
    have hp : ∀ c ∈ inside, (c != '<' && c != '>') = true := by simpa using hi
    refine ⟨inside ++ '>' :: rest, rest, rfl, ?_, ?_⟩
    · rw [List.dropWhile_append_of_pos hp]
      rfl
    · rw [takeWhile_append_cons (by decide), List.takeWhile_eq_self_iff.2 hp]

theorem tag?_append_space (h : '<' ∉ cs ∨ '>' ∉ bs) (hn : cs ≠ []) :
    tag? (cs ++ ' ' :: bs) = tag? cs := by
  obtain ⟨d, cs, rfl⟩ := List.exists_cons_of_ne_nil hn
  apply Option.ext
  intro t
  rw [tag?_eq_some_iff_inside, tag?_eq_some_iff_inside]
  constructor
  · rintro ⟨inside, rest, he, hi, rfl⟩
    obtain ⟨as, hl, hr⟩ | ⟨as, hl, hr⟩ := List.append_eq_append_iff.1 he
    · -- The tag would be opened before the space and closed behind it.
      have hd : d = '<' := ((List.cons.inj hl).1).symm
      have hc : '>' ∈ ' ' :: bs := by simp [hr]
      have hb : '>' ∈ bs := by simpa using hc
      exact absurd hb (h.resolve_left (by simp [hd]))
    · cases as with
      | nil => simp at hr
      | cons c as =>
        rw [← (List.cons.inj hr).1] at hl
        exact ⟨inside, as, hl, hi, rfl⟩
  · rintro ⟨inside, rest, he, hi, rfl⟩
    exact ⟨inside, rest ++ ' ' :: bs, by simp [he], hi, rfl⟩

theorem url?_append_space (cs bs : List Char) : url? (cs ++ ' ' :: bs) = url? cs := by
  have hn : ∀ s ∈ schemes, ' ' ∉ s.toList := by decide
  have hs : schemes.find? (·.toList.isPrefixOf (cs ++ ' ' :: bs)) =
      schemes.find? (·.toList.isPrefixOf cs) := by
    apply List.find?_congr
    intro s hs
    rw [Bool.eq_iff_iff, List.isPrefixOf_iff_prefix, List.isPrefixOf_iff_prefix,
      isPrefix_append_cons_iff (hn s hs)]
  have ha : ∀ s, schemes.find? (·.toList.isPrefixOf cs) = some s →
      address ((cs ++ ' ' :: bs).drop s.length) = address (cs.drop s.length) := by
    intro s hf
    have hp := List.isPrefixOf_iff_prefix.1 (List.find?_eq_some_iff_append.1 hf).1
    rw [← String.length_toList, List.drop_append_of_le_length hp.length_le, address, address,
      takeWhile_append_cons (by decide)]
  apply Option.ext
  intro t
  rw [url?_eq_some_iff, url?_eq_some_iff, hs]
  apply exists_congr
  intro s
  apply and_congr_right
  intro hf
  rw [ha s hf]

theorem time?_append_space (cs bs : List Char) : time? (cs ++ ' ' :: bs) = time? cs := by
  have hd : ¬Numeral.isDigit ' ' := by decide
  apply Option.ext
  intro t
  rw [time?_eq_some_iff, time?_eq_some_iff, takeWhile_append_cons hd, dropWhile_append_cons hd]
  cases cs.dropWhile Numeral.isDigit with
  | nil => simp
  | cons c rest =>
    have hm := takeWhile_append_cons hd rest bs
    constructor
    · rintro ⟨_, hh, he, h⟩
      obtain ⟨rfl, rfl⟩ := List.cons.inj he
      exact ⟨rest, hh, rfl, hm ▸ h⟩
    · rintro ⟨_, hh, he, h⟩
      obtain ⟨rfl, rfl⟩ := List.cons.inj he
      exact ⟨rest ++ ' ' :: bs, hh, rfl, hm.symm ▸ h⟩

theorem number?_append_space (hn : cs ≠ []) (bs : List Char) :
    number? (cs ++ ' ' :: bs) = number? cs := by
  obtain ⟨c, cs, rfl⟩ := List.exists_cons_of_ne_nil hn
  rw [List.cons_append, number?, number?, joined_append_cons (by decide) (by decide)]

theorem word?_append_space (hn : cs ≠ []) (bs : List Char) :
    word? (cs ++ ' ' :: bs) = word? cs := by
  obtain ⟨c, cs, rfl⟩ := List.exists_cons_of_ne_nil hn
  rw [List.cons_append, word?, word?, joined_append_cons (by simp [isWordChar_space]) (by decide)]

/-- What a text starts with is the same if more follows behind a space, unless that closes a tag. -/
theorem first?_append_space (h : '<' ∉ cs ∨ '>' ∉ bs) (hn : cs ≠ []) :
    first? (cs ++ ' ' :: bs) = first? cs := by
  simp only [first?, tag?_append_space h hn, url?_append_space, time?_append_space,
    number?_append_space hn, word?_append_space hn]

theorem first?_space (bs : List Char) : first? (' ' :: bs) = none := by
  apply Option.eq_none_iff_forall_ne_some.2
  intro m hm
  obtain ⟨d, ds, ht, hd⟩ := exists_head hm
  have hp := isPrefix_of_first? hm
  rw [ht, List.cons_prefix_cons] at hp
  have hk : m.kind ≠ .tag := by
    intro hk
    have htag := match?_of_first? hm
    rw [hk, match?_tag] at htag
    cases htag
  have hw := hd hk
  rw [hp.1, isWordChar_space] at hw
  cases hw

end Kinds

theorem scan_append_space (h : '<' ∉ cs ∨ '>' ∉ bs) :
    scan (cs ++ ' ' :: bs) = scan cs ++ scan bs := by
  induction cs using scan_induction with
  | nil => rw [List.nil_append, scan_of_none (first?_space bs), scan, List.nil_append]
  | gap c cs hf ih =>
    have hf' := first?_append_space h (List.cons_ne_nil c cs)
    rw [hf, List.cons_append] at hf'
    rw [List.cons_append, scan_of_none hf', scan_of_none hf]
    apply ih
    exact h.imp_left (mt (List.mem_cons_of_mem c))
  | found cs m hf ih =>
    have hn : cs ≠ [] := by
      rintro rfl
      cases hf
    have hf' := first?_append_space h hn
    rw [hf] at hf'
    have hl := (isPrefix_of_first? hf).length_le
    rw [scan_of_some hf', scan_of_some hf, List.drop_append_of_le_length hl, List.cons_append]
    congr 1
    apply ih
    exact h.imp_left (mt List.mem_of_mem_drop)

end Retrieval.Text.Span

namespace Retrieval.Terms

open Text Span

variable {a b : String}

theorem spans_append (h : '<' ∉ a.toList ∨ '>' ∉ b.toList) :
    spans (a ++ " " ++ b) = spans a ++ spans b := by
  have ht : (a ++ " " ++ b).toList = a.toList ++ ' ' :: b.toList := by simp
  rw [spans, ht, scan_append_space h, List.filterMap_append, spans, spans]

theorem terms_ofSpans_append (stopWords : StopWords) (term : String → String)
    (h : '<' ∉ a.toList ∨ '>' ∉ b.toList) :
    (Preprocessor.ofSpans stopWords term).terms (a ++ " " ++ b) =
      (Preprocessor.ofSpans stopWords term).terms a ++
        (Preprocessor.ofSpans stopWords term).terms b := by
  simp only [Preprocessor.ofSpans, spans_append h, List.filter_append, List.map_append]

/-- Title and body of an article have their terms independently of each other. -/
theorem article_terms_apart (a b : String) (h : '<' ∉ a.toList ∨ '>' ∉ b.toList) :
    spans (a ++ " " ++ b) = spans a ++ spans b ∧
      ∀ article : Article, article.title = a → article.body = b →
        ∀ (stopWords : StopWords) (stem : List Char → List Char),
          ∀ p ∈ [Preprocessor.english stopWords stem, Preprocessor.czech stopWords stem],
            p.terms article.indexableText = p.terms a ++ p.terms b := by
  refine ⟨spans_append h, ?_⟩
  rintro article rfl rfl stopWords stem p hp
  have ht := fun term => terms_ofSpans_append stopWords term h
  obtain rfl | rfl := by simpa using hp
  · exact ht (Preprocessor.englishTerm stem)
  · exact ht (Preprocessor.czechTerm stem)

/-- A tag that is open at the end of the title would go on in the body. -/
example : spans ("<b" ++ " " ++ "1>") = [] := by decide +kernel

theorem terms_apart_of_open_tag :
    ('<' ∉ "<b".toList ∨ '>' ∉ "1".toList) ∧ spans ("<b" ++ " " ++ "1") = ["b", "1"] ∧
      ∀ (stopWords : StopWords) (stem : List Char → List Char),
        ∀ p ∈ [Preprocessor.english stopWords stem, Preprocessor.czech stopWords stem],
          p.terms (Article.indexableText ⟨"<b", "1", none, none, none, none⟩) =
            p.terms "<b" ++ p.terms "1" := by
  have h : '<' ∉ "<b".toList ∨ '>' ∉ "1".toList := .inr (by decide)
  obtain ⟨hs, ht⟩ := article_terms_apart "<b" "1" h
  have ho : first? ['<', 'b'] = none := by
    simp [first?, tag?, url?, schemes, time?, Numeral.isDigit, number?, word?, isWordChar_of_lt]
  have hb : first? ['b'] = some ⟨.word, ['b']⟩ := by
    simp [first?, tag?, url?, schemes, time?, Numeral.isDigit, number?, word?, joined,
      isWordChar_of_lt]
  have hd : first? ['1'] = some ⟨.word, ['1']⟩ := by
    simp [first?, tag?, url?, schemes, time?, Numeral.isDigit, number?, word?, joined,
      isWordChar_of_lt]
  have hl : spans "<b" = ["b"] := by simp [spans, scan_of_none ho, scan_of_some hb, scan]
  have hr : spans "1" = ["1"] := by simp [spans, scan_of_some hd, scan]
  rw [hl, hr] at hs
  exact ⟨h, hs, ht _ rfl rfl⟩

end Retrieval.Terms
