import Mathlib.Data.List.Infix
import Mathlib.Order.Bounds.Basic
import Retrieval.Proofs.Server.ExcerptMarks

namespace Retrieval.Server.Excerpt

open Text Pattern

variable {text w : String} {words : List String} {t cs before m : List Char} {n : Nat}

section Bytes

theorem within_isPrefix (n : Nat) (cs : List Char) : within n cs <+: cs := by
  induction cs generalizing n with
  | nil => exact List.nil_prefix
  | cons c cs ih =>
    rw [within]
    split
    · exact (List.prefix_cons_inj c).2 (ih _)
    · exact List.nil_prefix

theorem utf8Len_within_le (n : Nat) (cs : List Char) : String.utf8Len (within n cs) ≤ n := by
  induction cs generalizing n with
  | nil => simp [within]
  | cons c cs ih =>
    rw [within]
    split
    · have hl := ih (n - c.utf8Size)
      rw [String.utf8Len_cons]
      omega
    · simp

theorem isPrefix_within (h : t <+: cs) (hl : String.utf8Len t ≤ n) : t <+: within n cs := by
  induction t generalizing n cs with
  | nil => exact List.nil_prefix
  | cons c t ih =>
    obtain ⟨rest, rfl⟩ := h
    rw [String.utf8Len_cons] at hl
    rw [List.cons_append, within, if_pos (by omega)]
    apply (List.prefix_cons_inj c).2
    exact ih (List.prefix_append t rest) (by omega)

theorem isPrefix_of_utf8Len_le (h : t <+: cs) (h' : before <+: cs)
    (hl : String.utf8Len t ≤ String.utf8Len before) : t <+: before := by
  obtain hp | ⟨rest, rfl⟩ := List.prefix_or_prefix_of_prefix h h'
  · exact hp
  · have hr : String.utf8Len rest = 0 := by
      rw [String.utf8Len_append] at hl
      omega
    rw [String.utf8Len_eq_zero.1 hr, List.append_nil]

theorem isValid_of_isPrefix (h : t <+: text.toList) :
    String.Pos.Raw.IsValid text ⟨String.utf8Len t⟩ := by
  apply String.Pos.Raw.isValid_iff_exists_take_toList.2
  refine ⟨t.length, ?_⟩
  rw [String.utf8ByteSize_ofList, ← List.prefix_iff_eq_take.1 h]

theorem isGreatest_within (n : Nat) (text : String) :
    IsGreatest {i | String.Pos.Raw.IsValid text ⟨i⟩ ∧ i ≤ n}
      (String.utf8Len (within n text.toList)) := by
  constructor
  · exact ⟨isValid_of_isPrefix (within_isPrefix n _), utf8Len_within_le n _⟩
  · rintro i ⟨hi, hn⟩
    obtain ⟨k, hk⟩ := String.Pos.Raw.isValid_iff_exists_take_toList.1 hi
    rw [String.utf8ByteSize_ofList] at hk
    change i = _ at hk
    rw [hk] at hn ⊢
    exact String.utf8Len_le_of_prefix (isPrefix_within (List.take_prefix k _) hn)

theorem within_append_between {start stop : Nat} (h : start ≤ stop) (cs : List Char) :
    within start cs ++ between start stop cs = within stop cs := by
  apply List.prefix_iff_eq_append.1
  exact isPrefix_within (within_isPrefix start cs) ((utf8Len_within_le start cs).trans h)

end Bytes

section Window

/-- The part of a text from at most 100 bytes before a place up to at most 200 bytes behind it. Both
ends are as far away as they can be without being inside a character. -/
structure Window (text : String) (k : Nat) (a x b : List Char) : Prop where
  append_eq : a ++ x ++ b = text.toList
  isGreatest_start :
    IsGreatest {i | String.Pos.Raw.IsValid text ⟨i⟩ ∧ i ≤ k - 100} (String.utf8Len a)
  isGreatest_stop :
    IsGreatest {i | String.Pos.Raw.IsValid text ⟨i⟩ ∧ i ≤ min (k + 200) text.utf8ByteSize}
      (String.utf8Len (a ++ x))
  start_le : String.utf8Len a ≤ k
  le_stop : k ≤ String.utf8Len (a ++ x)

theorem exists_window (h : before <+: text.toList) : ∃ a b, Window text (String.utf8Len before) a
    (between (String.utf8Len before - bytesBefore) (String.utf8Len before + bytesFrom)
      text.toList) b := by
  have hle : String.utf8Len before - bytesBefore ≤ String.utf8Len before + bytesFrom := by omega
  have ha := within_append_between hle text.toList
  have hb := List.prefix_iff_eq_append.1
    (within_isPrefix (String.utf8Len before + bytesFrom) text.toList)
  refine ⟨within (String.utf8Len before - bytesBefore) text.toList,
    text.toList.drop (within (String.utf8Len before + bytesFrom) text.toList).length,
    ?_, ?_, ?_, ?_, ?_⟩
  · rw [ha, hb]
  · exact isGreatest_within _ text
  · rw [ha]
    obtain ⟨⟨hv, hs⟩, hg⟩ := isGreatest_within (String.utf8Len before + bytesFrom) text
    refine ⟨⟨hv, le_min hs hv.le_rawEndPos⟩, fun i hi => ?_⟩
    exact hg ⟨hi.1, hi.2.trans (min_le_left _ _)⟩
  · exact (utf8Len_within_le _ _).trans (Nat.sub_le _ _)
  · rw [ha]
    exact String.utf8Len_le_of_prefix (isPrefix_within h (Nat.le_add_right _ _))

theorem Window.exists_append {a x b : List Char} (h : Window text (String.utf8Len before) a x b)
    (hm : before ++ m <+: text.toList) (hl : String.utf8Len m ≤ 200) :
    ∃ q, a ++ q = before ∧ q ++ m <+: x := by
  have hx : a ++ x <+: text.toList := ⟨b, h.append_eq⟩
  have hb : before <+: text.toList := (List.prefix_append before m).trans hm
  have hv := isValid_of_isPrefix hm
  have hs : String.utf8Len (before ++ m) ≤ String.utf8Len before + 200 := by
    rw [String.utf8Len_append]
    exact Nat.add_le_add_left hl _
  have hle := h.isGreatest_stop.2 ⟨hv, le_min hs hv.le_rawEndPos⟩
  obtain ⟨q, rfl⟩ := isPrefix_of_utf8Len_le ((List.prefix_append a x).trans hx) hb h.start_le
  have hq := isPrefix_of_utf8Len_le hm hx hle
  rw [List.append_assoc] at hq
  exact ⟨q, rfl, (List.prefix_append_right_inj a).1 hq⟩

end Window

section Occurrences

def Occurs (w text : String) : Prop :=
  ∃ t, t <:+: text.toList ∧ t.map LetterCase.fold = w.toList.map LetterCase.fold

theorem occurs_iff : Occurs w text ↔ ∃ i, startsWith w.toList (text.toList.drop i) := by
  constructor
  · rintro ⟨t, ht, hm⟩
    obtain ⟨s, hs, hd⟩ := List.infix_iff_prefix_suffix.1 ht
    rw [List.suffix_iff_eq_drop.1 hd] at hs
    exact ⟨_, startsWith_iff.2 ⟨t, hs, hm⟩⟩
  · rintro ⟨i, hi⟩
    obtain ⟨t, ht, hm⟩ := startsWith_iff.1 hi
    exact ⟨t, ht.isInfix.trans (List.drop_suffix i _).isInfix, hm⟩

theorem mem_sought {v : List Char} :
    v ∈ sought words ↔ ∃ w ∈ words, w.toList = v ∧ ¬w.toList.all Blank.isBlank := by
  rw [sought, List.mem_filter, List.mem_map]
  constructor
  · rintro ⟨⟨w, hw, rfl⟩, hb⟩
    exact ⟨w, hw, rfl, by simpa using hb⟩
  · rintro ⟨w, hw, rfl, hb⟩
    exact ⟨⟨w, hw, rfl⟩, by simpa using hb⟩

theorem nil_not_mem_sought (words : List String) : [] ∉ sought words := by
  intro h
  obtain ⟨w, -, hw, hb⟩ := mem_sought.1 h
  rw [hw] at hb
  exact hb rfl

theorem exists_firstMatch_of_occurs (hw : w ∈ words) (hb : ¬w.toList.all Blank.isBlank)
    (ho : Occurs w text) :
    ∃ before m, FirstMatch (anyOf (sought words)) text.toList before m := by
  obtain ⟨i, hi⟩ := occurs_iff.1 ho
  apply exists_firstMatch
  rw [Ne, match?_anyOf_eq_none_iff, wordAt?, List.find?_eq_none]
  intro hn
  exact hn _ (mem_sought.2 ⟨w, hw, rfl, hb⟩) hi

theorem match?_eq_none_of_not_occurs
    (h : ∀ w ∈ words, Occurs w text → w.toList.all Blank.isBlank) (i : Nat) :
    (anyOf (sought words)).match? (text.toList.drop i) = none := by
  rw [match?_anyOf_eq_none_iff, wordAt?, List.find?_eq_none]
  intro v hv hs
  obtain ⟨w, hw, rfl, hb⟩ := mem_sought.1 hv
  exact hb (h w hw (occurs_iff.2 ⟨i, hs⟩))

end Occurrences

theorem ofText?_of_ne (h : text ≠ "") (words : List String) : ofText? text words =
    some (String.ofList (markFrom (sought words) 0 (cut (sought words) text.toList))) := by
  rw [ofText?, if_neg (by simpa using h)]

theorem cut_of_firstMatch {ws : List (List Char)} (h0 : [] ∉ ws)
    (h : FirstMatch (anyOf ws) cs before m) : cut ws cs =
      between (String.utf8Len before - bytesBefore) (String.utf8Len before + bytesFrom) cs := by
  rw [cut, firstFrom_of_firstMatch h0 h, Nat.zero_add]

theorem ofText?_of_not_occurs (h : text ≠ "")
    (hw : ∀ w ∈ words, Occurs w text → w.toList.all Blank.isBlank) :
    ofText? text words = some (String.ofList (text.toList.take headLength)) := by
  have hn := match?_eq_none_of_not_occurs hw
  have hc : cut (sought words) text.toList = text.toList.take headLength := by
    rw [cut, firstFrom_eq_none hn]
  rw [ofText?_of_ne h, hc, markFrom_eq_self]
  intro i
  exact match?_eq_none_of_isPrefix (hn i) ((List.take_prefix _ _).drop i)

/-- An excerpt around the first match: the window around the place where it starts, with marks
around the successive matches in the window. -/
structure Around (text : String) (words : List String) (before m a x b : List Char)
    (parts : List (List Char × List Char)) (rest : List Char) : Prop where
  window : Window text (String.utf8Len before) a x b
  splits : Splits (anyOf (sought words)) x parts rest
  ofText?_eq : ofText? text words = some (String.ofList (marked parts rest))
  unmarked : (parts.flatMap fun part => part.1 ++ part.2) ++ rest = x
  isPrefix : String.utf8Len m ≤ 200 → before ++ m <+: a ++ x
  head?_eq : String.utf8Len m ≤ 200 → ∃ q, a ++ q = before ∧ parts.head? = some (q, m)

theorem exists_around (h : FirstMatch (anyOf (sought words)) text.toList before m) :
    ∃ a x b parts rest, Around text words before m a x b parts rest := by
  have h0 := nil_not_mem_sought words
  have hne : text ≠ "" := by
    rintro rfl
    have hf := firstFrom_of_firstMatch h0 h 0
    cases hf
  obtain ⟨a, b, hw⟩ := exists_window h.isPrefix
  rw [← cut_of_firstMatch h0 h] at hw
  obtain ⟨parts, rest, hs, hm⟩ := exists_splits h0 (cut (sought words) text.toList)
  refine ⟨a, _, b, parts, rest, hw, hs, ?_, hs.flatMap_append, ?_, ?_⟩
  · rw [ofText?_of_ne hne, hm]
  · intro hl
    obtain ⟨q, rfl, hq⟩ := hw.exists_append h.append hl
    rw [List.append_assoc]
    exact (List.prefix_append_right_inj a).2 hq
  · intro hl
    obtain ⟨q, rfl, hq⟩ := hw.exists_append h.append hl
    rw [← hw.append_eq] at h
    exact ⟨q, rfl, hs.head?_eq (firstMatch_of_part h hq)⟩

/-- What an excerpt shows: the head of a text without any of the words, and otherwise the first
match in the text, as far as it is not longer than the excerpt. -/
structure ShowsMatches (text : String) (words : List String) : Prop where
  eq_none_iff : ofText? text words = none ↔ text = ""
  head : text ≠ "" → (∀ w ∈ words, Occurs w text → w.toList.all Blank.isBlank) →
    ofText? text words = some (String.ofList (text.toList.take 200))
  exists_first : ∀ w ∈ words, ¬w.toList.all Blank.isBlank → Occurs w text →
    ∃ before m, FirstMatch (anyOf (sought words)) text.toList before m
  around : ∀ before m, FirstMatch (anyOf (sought words)) text.toList before m →
    ∃ a x b parts rest, Around text words before m a x b parts rest

theorem showsMatches (text : String) (words : List String) : ShowsMatches text words where
  eq_none_iff := by
    by_cases h : text = ""
    · simp [h, ofText?]
    · simp [h, ofText?_of_ne]
  head := ofText?_of_not_occurs
  exists_first _ := exists_firstMatch_of_occurs
  around _ _ := exists_around

example : ofText? "Cats purr. A cat sleeps." ["at", "cat"] =
    some "<em>Cat</em>s purr. A <em>cat</em> sleeps." := by
  decide +kernel

end Retrieval.Server.Excerpt
