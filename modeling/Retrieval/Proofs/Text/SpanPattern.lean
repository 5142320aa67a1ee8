import Retrieval.Proofs.Text.Pattern
import Retrieval.Proofs.Text.Span

namespace Retrieval.Text.Span

open Pattern

def scheme : Pattern :=
  .seq (.alt (.seq (word "http".toList) (optional (word "s".toList)))
    (.alt (word "ftp".toList) (word "file".toList))) (word "://".toList)

def group (inner joint : Char → Bool) : Pattern :=
  .seq (.char joint) (plus (.char inner))

def Kind.pattern : Kind → Pattern
  | .tag => .seq (.char (· == '<'))
      (.seq (.many (.char fun c => c != '<' && c != '>')) (.char (· == '>')))
  | .url => .seq scheme (.seq (.many (.char isUrlChar)) (.char isUrlEnd))
  | .time => .seq (plus (.char Numeral.isDigit))
      (.seq (.char (· == ':')) (plus (.char Numeral.isDigit)))
  | .number => .seq (plus (.char Numeral.isDigit)) (plus (group Numeral.isDigit isSeparator))
  | .word => .seq (plus (.char isWordChar)) (.many (group isWordChar (· == '\'')))

def Kind.all : List Kind :=
  [.tag, .url, .time, .number, .word]

def expression : Pattern :=
  .alt Kind.tag.pattern <| .alt Kind.url.pattern <| .alt Kind.time.pattern <|
    .alt Kind.number.pattern Kind.word.pattern

def preferred? (cs : List Char) : Option Match :=
  Kind.all.findSome? fun k => (k.pattern.match? cs).map (⟨k, ·⟩)

variable {c : Char} {cs t : List Char} {inner joint : Char → Bool}

section Joined

theorem joined_eq_append (inner joint : Char → Bool) (cs : List Char) :
    joined inner joint cs = cs.takeWhile inner ++ joined inner joint (cs.dropWhile inner) := by
  induction cs with
  | nil => rfl
  | cons c cs ih =>
    by_cases hc : inner c
    · rw [joined_cons_of_inner hc, List.takeWhile_cons_of_pos hc, List.dropWhile_cons_of_pos hc,
        List.cons_append, ← ih]
    · rw [List.takeWhile_cons_of_neg hc, List.dropWhile_cons_of_neg hc, List.nil_append]

theorem drop_joined_dropWhile (inner joint : Char → Bool) (cs : List Char) :
    (cs.dropWhile inner).drop (joined inner joint (cs.dropWhile inner)).length =
      cs.drop (joined inner joint cs).length := by
  rw [joined_eq_append inner joint cs, List.length_append, ← List.drop_drop,
    drop_length_takeWhile]

theorem head?_dropWhile (p : Char → Bool) (cs : List Char) :
    ∀ c ∈ (cs.dropWhile p).head?, ¬p c := by
  intro c hc
  have h := List.head?_dropWhile_not p cs
  rw [hc] at h
  rw [show p c = false from h]
  exact Bool.false_ne_true

/-- Behind a run there are no more groups, or one starts there. -/
theorem group_cases (inner joint : Char → Bool) (h : ∀ c ∈ cs.head?, ¬inner c) :
    (joined inner joint cs = [] ∧ (group inner joint).rests cs = []) ∨
      ∃ c d ds, cs = c :: d :: ds ∧ joint c ∧
        joined inner joint cs = c :: d :: joined inner joint ds ∧
        (group inner joint).rests cs = (Pattern.many (.char inner)).rests ds := by
  cases cs with
  | nil => exact .inl ⟨rfl, rfl⟩
  | cons c cs =>
    have hc : ¬inner c := h c rfl
    rw [group, rests, rests]
    cases cs with
    | nil =>
      refine .inl ⟨?_, by split <;> rfl⟩
      rw [joined.eq_def]
      exact if_neg hc
    | cons d ds =>
      cases hj : joint c && inner d with
      | true =>
        obtain ⟨hjc, hd⟩ := Bool.and_eq_true_iff.1 hj
        refine .inr ⟨c, d, ds, rfl, hjc, ?_, ?_⟩
        · rw [joined_cons_of_joint hc hj, joined_cons_of_inner hd]
        · rw [if_pos hjc, List.flatMap_singleton, plus, rests, rests, if_pos hd,
            List.flatMap_singleton]
      | false =>
        refine .inl ⟨?_, ?_⟩
        · rw [joined.eq_def]
          simp only [if_neg hc, hj, Bool.false_eq_true, if_false]
        · split
          · next hjc =>
            have hd : ¬inner d := by simpa [hjc] using hj
            rw [List.flatMap_singleton, plus, rests, rests, if_neg hd, List.flatMap_nil]
          · rfl

theorem head?_repeated_ne_nil (step : List Char → List (List Char)) (n : Nat) (cs : List Char) :
    (repeated step n cs).head? ≠ none := by
  cases n <;> simp [repeated]

theorem head?_repeated_group {n : Nat} (hn : cs.length ≤ n) (h : ∀ c ∈ cs.head?, ¬inner c) :
    (repeated (group inner joint).rests n cs).head? =
      some (cs.drop (joined inner joint cs).length) := by
  induction n generalizing cs with
  | zero =>
    obtain rfl := List.length_eq_zero_iff.1 (Nat.le_zero.1 hn)
    rfl
  | succ n ih =>
    rw [repeated, List.head?_append, List.head?_flatMap]
    obtain ⟨hj, hr⟩ | ⟨c, d, ds, rfl, -, hj, hr⟩ := group_cases inner joint h
    · rw [hj, hr]
      rfl
    · have hl : (ds.dropWhile inner).length ≤ n := by
        have := List.length_dropWhile_le inner ds
        simp only [List.length_cons] at hn
        omega
      rw [hj, hr, findSome?_run (.inr fun cs => head?_repeated_ne_nil _ n cs),
        ih hl (head?_dropWhile inner ds), drop_joined_dropWhile, Option.some_or]
      rfl

theorem rest?_many_group (h : ∀ c ∈ cs.head?, ¬inner c) :
    (Pattern.many (group inner joint)).rest? cs = some (cs.drop (joined inner joint cs).length) :=
  head?_repeated_group (Nat.le_refl _) h

theorem rest?_many_ne_none (a : Pattern) (cs : List Char) : (Pattern.many a).rest? cs ≠ none :=
  head?_repeated_ne_nil a.rests _ cs

theorem rest?_plus_group (h : ∀ c ∈ cs.head?, ¬inner c) : (plus (group inner joint)).rest? cs =
    if joined inner joint cs = [] then none
    else some (cs.drop (joined inner joint cs).length) := by
  rw [plus, rest?_seq]
  obtain ⟨hj, hr⟩ | ⟨c, d, ds, rfl, -, hj, hr⟩ := group_cases inner joint h
  · rw [hr, if_pos hj, List.findSome?_nil]
  · rw [hr, hj, if_neg (List.cons_ne_nil _ _), findSome?_run (.inr (rest?_many_ne_none _)),
      rest?_many_group (head?_dropWhile inner ds), drop_joined_dropWhile]
    rfl

end Joined

section Agreement

theorem rest?_tag {rest : List Char} : Kind.tag.pattern.rest? cs = some rest ↔
    ∃ behind, cs = '<' :: behind ∧
      behind.dropWhile (fun c => c != '<' && c != '>') = '>' :: rest := by
  have hrun : ∀ c cs, (c != '<' && c != '>') = true →
      (Pattern.char (· == '>')).rest? (c :: cs) = none := by
    intro c cs hc
    refine Option.eq_none_iff_forall_ne_some.2 fun rest h => ?_
    obtain ⟨_, he, hd⟩ := rest?_char_eq_some_iff.1 h
    rw [(List.cons.inj he).1, eq_of_beq hd] at hc
    exact absurd hc (by decide)
  rw [Kind.pattern, rest?_char_seq_eq_some_iff]
  simp only [rest?_run_seq (.inl hrun), rest?_char_eq_some_iff, beq_iff_eq]
  constructor
  · rintro ⟨_, behind, rfl, rfl, _, hr, rfl⟩
    exact ⟨behind, rfl, hr⟩
  · rintro ⟨behind, rfl, hr⟩
    exact ⟨'<', behind, rfl, rfl, '>', hr, rfl⟩

theorem match?_tag (cs : List Char) : Kind.tag.pattern.match? cs = tag? cs := by
  refine match?_eq (fun t ht => ?_) fun rest hrest => ?_
  · obtain ⟨behind, rest, rfl, hr, rfl⟩ := tag?_eq_some_iff.1 ht
    refine ⟨rest, rest?_tag.2 ⟨behind, rfl, hr⟩, ?_⟩
    have hb := List.takeWhile_append_dropWhile (p := fun c => c != '<' && c != '>') (l := behind)
    rw [hr] at hb
    rw [List.append_assoc, List.singleton_append, List.cons_append, hb]
  · obtain ⟨behind, rfl, hr⟩ := rest?_tag.1 hrest
    exact Option.ne_none_iff_exists'.2 ⟨_, tag?_eq_some_iff.2 ⟨behind, rest, rfl, hr, rfl⟩⟩

theorem rest?_time {rest : List Char} : Kind.time.pattern.rest? cs = some rest ↔
    cs.takeWhile Numeral.isDigit ≠ [] ∧ ∃ behind, cs.dropWhile Numeral.isDigit = ':' :: behind ∧
      behind.takeWhile Numeral.isDigit ≠ [] ∧ behind.dropWhile Numeral.isDigit = rest := by
  have hrun : ∀ c cs, Numeral.isDigit c →
      (Pattern.seq (.char (· == ':')) (plus (.char Numeral.isDigit))).rest? (c :: cs) = none := by
    intro c cs hc
    rw [rest?_char_seq, if_neg]
    intro h
    rw [eq_of_beq h] at hc
    exact absurd hc (by decide)
  rw [Kind.pattern, rest?_plus_seq_eq_some_iff (.inl hrun), rest?_char_seq_eq_some_iff]
  simp only [rest?_plus_eq_some_iff, beq_iff_eq]
  refine and_congr_right fun _ => ?_
  constructor
  · rintro ⟨_, behind, hr, rfl, hm, hb⟩
    exact ⟨behind, hr, hm, hb⟩
  · rintro ⟨behind, hr, hm, hb⟩
    exact ⟨':', behind, hr, rfl, hm, hb⟩

theorem match?_time (cs : List Char) : Kind.time.pattern.match? cs = time? cs := by
  refine match?_eq (fun t ht => ?_) fun rest hrest => ?_
  · obtain ⟨behind, hh, hr, hm, rfl⟩ := time?_eq_some_iff.1 ht
    refine ⟨_, rest?_time.2 ⟨hh, behind, hr, hm, rfl⟩, ?_⟩
    rw [List.append_assoc, List.cons_append, List.takeWhile_append_dropWhile, ← hr,
      List.takeWhile_append_dropWhile]
  · obtain ⟨hh, behind, hr, hm, -⟩ := rest?_time.1 hrest
    exact Option.ne_none_iff_exists'.2 ⟨_, time?_eq_some_iff.2 ⟨behind, hh, hr, hm, rfl⟩⟩

theorem not_isSeparator_of_isDigit (h : Numeral.isDigit c) : ¬isSeparator c := fun hs => by
  have hw := isWordChar_of_isDigit h
  rw [isWordChar_of_isSeparator hs] at hw
  cases hw

theorem any_isSeparator_joined (cs : List Char) :
    (joined Numeral.isDigit isSeparator cs).any isSeparator ↔
      joined Numeral.isDigit isSeparator (cs.dropWhile Numeral.isDigit) ≠ [] := by
  have hrun : (cs.takeWhile Numeral.isDigit).any isSeparator = false :=
    List.any_eq_false.2 fun c hc => not_isSeparator_of_isDigit (List.mem_takeWhile_imp hc)
  rw [joined_eq_append, List.any_append, hrun, Bool.false_or]
  obtain ⟨hj, -⟩ | ⟨c, d, ds, -, hc, hj, -⟩ :=
    group_cases Numeral.isDigit isSeparator (head?_dropWhile Numeral.isDigit cs)
  · rw [hj]
    exact iff_of_false Bool.false_ne_true (absurd rfl)
  · rw [hj, List.any_cons, hc, Bool.true_or]
    exact iff_of_true rfl (List.cons_ne_nil _ _)

theorem rest?_number (c : Char) (cs : List Char) : Kind.number.pattern.rest? (c :: cs) =
    if Numeral.isDigit c ∧ (joined Numeral.isDigit isSeparator cs).any isSeparator then
      some (cs.drop (joined Numeral.isDigit isSeparator cs).length) else none := by
  have hrun : ∀ c cs, Numeral.isDigit c →
      (plus (group Numeral.isDigit isSeparator)).rest? (c :: cs) = none := by
    intro c cs hc
    rw [plus, rest?_seq, group, rests, rests, if_neg (not_isSeparator_of_isDigit hc)]
    rfl
  rw [Kind.pattern, rest?_plus_seq (.inl hrun), rest?_plus_group (head?_dropWhile _ cs),
    drop_joined_dropWhile]
  simp only [any_isSeparator_joined]
  by_cases hc : Numeral.isDigit c <;>
    by_cases hj : joined Numeral.isDigit isSeparator (cs.dropWhile Numeral.isDigit) = [] <;>
    simp [hc, hj]

theorem match?_number (cs : List Char) : Kind.number.pattern.match? cs = number? cs := by
  cases cs with
  | nil => rfl
  | cons c cs =>
    refine match?_eq (fun t ht => ?_) fun rest hrest => ?_
    · obtain ⟨hc, hs, rfl⟩ := number?_cons_eq_some_iff.1 ht
      refine ⟨_, (rest?_number c cs).trans (if_pos ⟨hc, hs⟩), ?_⟩
      rw [List.cons_append, List.prefix_iff_eq_append.1 (joined_isPrefix _ _ cs)]
    · rw [rest?_number] at hrest
      split at hrest
      · next h =>
        exact Option.ne_none_iff_exists'.2 ⟨_, number?_cons_eq_some_iff.2 ⟨h.1, h.2, rfl⟩⟩
      · cases hrest

theorem rest?_word (c : Char) (cs : List Char) : Kind.word.pattern.rest? (c :: cs) =
    if isWordChar c then some (cs.drop (joined isWordChar (· == '\'') cs).length) else none := by
  rw [Kind.pattern, rest?_plus_seq (.inr (rest?_many_ne_none _)),
    rest?_many_group (head?_dropWhile _ cs), drop_joined_dropWhile]

theorem match?_word (cs : List Char) : Kind.word.pattern.match? cs = word? cs := by
  cases cs with
  | nil => rfl
  | cons c cs =>
    refine match?_eq (fun t ht => ?_) fun rest hrest => ?_
    · obtain ⟨hc, rfl⟩ := word?_cons_eq_some_iff.1 ht
      refine ⟨_, (rest?_word c cs).trans (if_pos hc), ?_⟩
      rw [List.cons_append, List.prefix_iff_eq_append.1 (joined_isPrefix _ _ cs)]
    · rw [rest?_word] at hrest
      split at hrest
      · next hc => exact Option.ne_none_iff_exists'.2 ⟨_, word?_cons_eq_some_iff.2 ⟨hc, rfl⟩⟩
      · cases hrest

theorem rests_scheme (cs : List Char) :
    scheme.rests cs = schemes.flatMap fun s => (word s.toList).rests cs := by
  have hs : "https://".toList = "http".toList ++ ("s".toList ++ "://".toList) := by decide
  have hh : "http://".toList = "http".toList ++ "://".toList := by decide
  have hf : "ftp://".toList = "ftp".toList ++ "://".toList := by decide
  have hl : "file://".toList = "file".toList ++ "://".toList := by decide
  simp only [schemes, List.flatMap_cons, List.flatMap_nil, List.append_nil]
  rw [hs, hh, hf, hl, scheme, rests_alt_seq, rests_alt_seq, rests_optional_seq, List.append_assoc,
    rests_word_append "ftp".toList, rests_word_append "file".toList, rests, rests]

theorem rdropWhile_cons (p : Char → Bool) (c : Char) (cs : List Char) :
    (c :: cs).rdropWhile p =
      if cs.rdropWhile p = [] then if p c then [] else [c] else c :: cs.rdropWhile p := by
  simp only [List.rdropWhile, List.reverse_cons, List.dropWhile_append, List.reverse_eq_nil_iff,
    List.isEmpty_iff]
  split
  · by_cases hc : p c <;> simp [hc]
  · rw [List.reverse_append]
    rfl

theorem isUrlChar_of_isUrlEnd (h : isUrlEnd c) : isUrlChar c := by
  rw [isUrlEnd, Bool.or_eq_true] at h
  rw [isUrlChar, Bool.or_eq_true]
  refine h.imp_right fun hm => ?_
  have hs : "-+&@#/%=~_|".toList.all "-+&@#/%?=~_|!:,.;".toList.contains := by decide
  exact List.all_eq_true.1 hs c (List.contains_iff_mem.1 hm)

theorem rest?_address (cs : List Char) :
    (Pattern.seq (.many (.char isUrlChar)) (.char isUrlEnd)).rest? cs =
      if address cs = [] then none else some (cs.drop (address cs).length) := by
  induction cs with
  | nil => rfl
  | cons c cs ih =>
    rw [rest?_seq] at ih ⊢
    by_cases hc : isUrlChar c
    · have ha : address (c :: cs) = if address cs = [] then if isUrlEnd c then [c] else []
          else c :: address cs := by
        rw [address, List.takeWhile_cons_of_pos hc, rdropWhile_cons, address]
        cases isUrlEnd c <;> rfl
      have hr : (Pattern.char isUrlEnd).rest? (c :: cs) = if isUrlEnd c then some cs else none := by
        rw [rest?, rests]
        split <;> rfl
      rw [rests_many_char_of_pos hc, List.findSome?_append, ih, List.findSome?_singleton, hr, ha]
      by_cases hn : address cs = []
      · cases isUrlEnd c <;> simp [hn]
      · simp [hn]
    · have he : ¬isUrlEnd c := fun he => hc (isUrlChar_of_isUrlEnd he)
      have ha : address (c :: cs) = [] := by
        rw [address, List.takeWhile_cons_of_neg hc]
        rfl
      rw [rests_many_char_of_neg hc, List.findSome?_singleton, if_pos ha, rest?, rests, if_neg he]
      rfl

theorem eq_of_isPrefix {s s' : String} (hs : s ∈ schemes) (hs' : s' ∈ schemes)
    (h : s.toList <+: cs) (h' : s'.toList <+: cs) : s = s' := by
  have hd : ∀ s ∈ schemes, ∀ s' ∈ schemes, s.toList.isPrefixOf s'.toList → s = s' := by decide
  rcases List.prefix_or_prefix_of_prefix h h' with hp | hp
  · exact hd s hs s' hs' (List.isPrefixOf_iff_prefix.2 hp)
  · exact (hd s' hs' s hs (List.isPrefixOf_iff_prefix.2 hp)).symm

theorem rests_word_eq_nil {s : String} (h : ¬s.toList.isPrefixOf cs) :
    (word s.toList).rests cs = [] := by
  rw [rests_word, if_neg h]

theorem rests_scheme_of_find? {s : String}
    (h : schemes.find? (·.toList.isPrefixOf cs) = some s) :
    scheme.rests cs = [cs.drop s.length] := by
  obtain ⟨hp, before, behind, he, hb⟩ := List.find?_eq_some_iff_append.1 h
  have hnodup : schemes.Nodup := by decide
  have hs : s ∉ behind := by
    rw [he, List.nodup_append, List.nodup_cons] at hnodup
    exact hnodup.2.1.1
  have hbefore : (before.flatMap fun s => (word s.toList).rests cs) = [] :=
    List.flatMap_eq_nil_iff.2 fun s' hs' =>
      rests_word_eq_nil (by simpa only [Bool.not_eq_true', Bool.not_eq_true] using hb s' hs')
  have hbehind : (behind.flatMap fun s => (word s.toList).rests cs) = [] := by
    refine List.flatMap_eq_nil_iff.2 fun s' hs' => rests_word_eq_nil fun hp' => hs ?_
    have hm : s ∈ schemes ∧ s' ∈ schemes := by simp [he, hs']
    rwa [eq_of_isPrefix hm.1 hm.2 (List.isPrefixOf_iff_prefix.1 hp)
      (List.isPrefixOf_iff_prefix.1 hp')]
  rw [rests_scheme, he, List.flatMap_append, List.flatMap_cons, hbefore, hbehind, rests_word,
    if_pos hp, List.append_nil, List.nil_append, String.length_toList]

theorem rest?_url (cs : List Char) : Kind.url.pattern.rest? cs =
    (schemes.find? (·.toList.isPrefixOf cs)).bind fun s =>
      (Pattern.seq (.many (.char isUrlChar)) (.char isUrlEnd)).rest? (cs.drop s.length) := by
  rw [Kind.pattern, rest?_seq]
  cases h : schemes.find? (·.toList.isPrefixOf cs) with
  | none =>
    have hn : scheme.rests cs = [] := by
      rw [rests_scheme]
      exact List.flatMap_eq_nil_iff.2 fun s hs =>
        rests_word_eq_nil (List.find?_eq_none.1 h s hs)
    rw [hn]
    rfl
  | some s => rw [rests_scheme_of_find? h, List.findSome?_singleton, Option.bind_some]

theorem match?_url (cs : List Char) : Kind.url.pattern.match? cs = url? cs := by
  refine match?_eq (fun t ht => ?_) fun rest hrest => ?_
  · obtain ⟨s, hs, ha, rfl⟩ := url?_eq_some_iff.1 ht
    refine ⟨(cs.drop s.length).drop (address (cs.drop s.length)).length, ?_, ?_⟩
    · rw [rest?_url, hs, Option.bind_some, rest?_address, if_neg ha]
    · have hp : s.toList <+: cs :=
        List.isPrefixOf_iff_prefix.1 (List.find?_eq_some_iff_append.1 hs).1
      rw [List.append_assoc, List.prefix_iff_eq_append.1 (address_isPrefix _),
        ← String.length_toList, List.prefix_iff_eq_append.1 hp]
  · rw [rest?_url] at hrest
    obtain ⟨s, hs, hr⟩ := Option.bind_eq_some_iff.1 hrest
    rw [rest?_address] at hr
    split at hr
    · cases hr
    · next ha => exact Option.ne_none_iff_exists'.2 ⟨_, url?_eq_some_iff.2 ⟨s, hs, ha, rfl⟩⟩

end Agreement

/-- The preferred way to match the expression is by the first alternative that can be matched. -/
theorem match?_expression (cs : List Char) :
    expression.match? cs = (preferred? cs).map Match.text := by
  simp only [expression, match?_alt, preferred?, Kind.all, List.findSome?_cons, List.findSome?_nil]
  cases Kind.tag.pattern.match? cs <;> cases Kind.url.pattern.match? cs <;>
    cases Kind.time.pattern.match? cs <;> cases Kind.number.pattern.match? cs <;>
    cases Kind.word.pattern.match? cs <;> rfl

theorem preferred?_eq (cs : List Char) : preferred? cs = first? cs := by
  simp only [preferred?, Kind.all, List.findSome?_cons, List.findSome?_nil, match?_tag, match?_url,
    match?_time, match?_number, match?_word, first?]
  cases tag? cs <;> cases url? cs <;> cases time? cs <;> cases number? cs <;> cases word? cs <;> rfl

theorem match?_of_first? {m : Match} (h : first? cs = some m) :
    m.kind.pattern.match? cs = some m.text := by
  rw [← preferred?_eq] at h
  obtain ⟨k, -, hk⟩ := List.exists_of_findSome?_eq_some h
  obtain ⟨t, ht, rfl⟩ := Option.map_eq_some_iff.1 hk
  exact ht

theorem isPrefix_of_first? {m : Match} (h : first? cs = some m) : m.text <+: cs :=
  isPrefix_of_match? (match?_of_first? h)

end Retrieval.Text.Span
