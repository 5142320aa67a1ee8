import Mathlib.Data.List.Chain
import Retrieval.Proofs.Query.Spelling

namespace Retrieval.Query.Lexer

open Text

/-- The tokens that a text can have: no identifier is without characters, and commas and boundaries
are for the functional grammar. -/
def Writable (g : Grammar) : Token → Prop
  | .ident text => text ≠ ""
  | .comma | .boundary => g = .functional
  | _ => True

/-- The text of a token, with a backslash in front of all that an identifier cannot have without. -/
def written (g : Grammar) : Token → List Char
  | .ident text => escape (isReserved g) text.toList
  | t => t.display.toList

def Blanks (cs : List Char) : Prop :=
  ∀ c ∈ cs, Blank.isBlank c

inductive Layout (g : Grammar) : List Token → List Char → Prop
  | single (t : Token) : Layout g [t] (written g t)
  | cons (t : Token) {ts : List Token} {gap cs : List Char} (hn : gap ≠ []) (hb : Blanks gap)
    (h : Layout g ts cs) : Layout g (t :: ts) (written g t ++ gap ++ cs)

def BothIdentifiers (t u : Token) : Prop :=
  ∃ a b, t = .ident a ∧ u = .ident b

/-- Some tokens with an `&` between any two identifiers that are side by side, and nothing else that
is new. -/
inductive Conjoined : List Token → List Token → Prop
  | nil : Conjoined [] []
  | single (t : Token) : Conjoined [t] [t]
  | conjoin (a b : String) {ts us : List Token} (h : Conjoined (.ident b :: ts) us) :
    Conjoined (.ident a :: .ident b :: ts) (.ident a :: .and :: us)
  | keep {t u : Token} {ts us : List Token} (hn : ¬BothIdentifiers t u)
    (h : Conjoined (u :: ts) us) : Conjoined (t :: u :: ts) (t :: us)

def ReadAs : Grammar → List Token → List Token → Prop
  | .functional, ts, us => us = ts
  | .infixed, ts, us => Conjoined ts us

section Blanks

variable (g : Grammar)

theorem lexFrom_blank {c : Char} (hb : Blank.isBlank c) (word cs : List Char) :
    lexFrom g word (c :: cs) = identifier word ++ lexFrom g [] cs := by
  have hc : c ≠ '\\' := by
    rintro rfl
    exact absurd hb (by decide)
  rw [lexFrom_of_ne g word cs hc, if_pos hb]

theorem lexFrom_blanks {gap : List Char} (hb : Blanks gap) (cs : List Char) :
    lexFrom g [] (gap ++ cs) = lexFrom g [] cs := by
  induction gap with
  | nil => rfl
  | cons c gap ih =>
    obtain ⟨hc, hb⟩ := List.forall_mem_cons.1 hb
    rw [List.cons_append, lexFrom_blank g hc, ih hb]
    rfl

theorem lexFrom_gap {gap : List Char} (hb : Blanks gap) {cs : List Char}
    (hn : gap = [] → cs = []) (word : List Char) :
    lexFrom g word (gap ++ cs) = identifier word ++ lexFrom g [] cs := by
  cases gap with
  | nil =>
    rw [hn rfl, List.append_nil, lexFrom_nil, lexFrom_nil, identifier, List.append_nil]
  | cons c gap =>
    obtain ⟨hc, hb⟩ := List.forall_mem_cons.1 hb
    rw [List.cons_append, lexFrom_blank g hc, lexFrom_blanks g hb]

end Blanks

section Written

variable {g : Grammar} {t : Token} {ts : List Token} {gap cs : List Char}

theorem ident_or_written_eq_singleton (hw : Writable g t) :
    (∃ text, t = .ident text) ∨ ∃ c, symbol? g c = some t ∧ written g t = [c] := by
  cases t with
  | ident text => exact .inl ⟨text, rfl⟩
  | and | or | not | leftParen | rightParen => exact .inr ⟨_, rfl, rfl⟩
  | comma | boundary =>
    cases hw
    exact .inr ⟨_, rfl, rfl⟩

theorem lexFrom_written (hw : Writable g t) (hb : Blanks gap) (hn : gap = [] → cs = []) :
    lexFrom g [] (written g t ++ (gap ++ cs)) = t :: lexFrom g [] cs := by
  rcases ident_or_written_eq_singleton hw with ⟨text, rfl⟩ | ⟨c, hc, hs⟩
  · rw [written, lexFrom_escape (fun _ h => h), List.append_nil, lexFrom_gap g hb hn,
      identifier_reverse_toList hw, List.singleton_append]
  · rw [hs, List.singleton_append, lexFrom_symbol hc, lexFrom_blanks g hb]
    rfl

theorem Layout.lexFrom_append (h : Layout g ts cs) (hw : ∀ t ∈ ts, Writable g t)
    {after : List Char} (ha : Blanks after) : lexFrom g [] (cs ++ after) = ts := by
  induction h with
  | single t =>
    have ht := hw t List.mem_cons_self
    rw [← List.append_nil after, lexFrom_written ht ha (fun _ => rfl)]
    rfl
  | cons t hn hb h ih =>
    obtain ⟨ht, hw⟩ := List.forall_mem_cons.1 hw
    rw [List.append_assoc, List.append_assoc, lexFrom_written ht hb (fun h => absurd h hn), ih hw]

theorem Layout.ne_nil (h : Layout g ts cs) : ts ≠ [] := by
  cases h <;> exact List.cons_ne_nil _ _

theorem exists_layout (hn : ts ≠ []) : ∃ cs, Layout g ts cs := by
  induction ts with
  | nil => exact absurd rfl hn
  | cons t ts ih =>
    cases ts with
    | nil => exact ⟨_, .single t⟩
    | cons u ts =>
      obtain ⟨cs, h⟩ := ih (List.cons_ne_nil _ _)
      have hb : Blanks [' '] := by simp [Blanks, Blank.isBlank]
      exact ⟨_, .cons t (List.cons_ne_nil _ _) hb h⟩

end Written

section Lexed

variable {g : Grammar} {t : Token} {ts us : List Token}

theorem writable_of_symbol {c : Char} (h : symbol? g c = some t) : Writable g t := by
  unfold symbol? at h
  split at h
  case h_6 | h_7 =>
    split at h
    · next hg =>
      cases h
      exact hg
    · cases h
  case h_8 => cases h
  all_goals
    cases h
    trivial

theorem writable_of_mem_identifier {word : List Char} (h : t ∈ identifier word) :
    Writable g t := by
  cases word with
  | nil => exact absurd h List.not_mem_nil
  | cons c word =>
    rw [identifier.eq_2 _ (List.cons_ne_nil c word), List.mem_singleton] at h
    rw [h, Writable]
    simp

theorem writable_of_mem_lexFrom {word cs : List Char} (h : t ∈ lexFrom g word cs) :
    Writable g t := by
  induction word, cs using lexFrom.induct g with
  | case1 word => exact writable_of_mem_identifier h
  | case2 word => exact writable_of_mem_identifier h
  | case3 word c cs ih => exact ih h
  | case4 word c cs hl he hb ih =>
    rw [lexFrom_blank g hb] at h
    exact (List.mem_append.1 h).elim writable_of_mem_identifier ih
  | case5 word c cs hl he hb t' hs ih =>
    rw [lexFrom_symbol hs] at h
    rcases List.mem_append.1 h with h | h
    · exact writable_of_mem_identifier h
    · rcases List.mem_cons.1 h with rfl | h
      · exact writable_of_symbol hs
      · exact ih h
  | case6 word c cs hl he hb hs ih =>
    rw [lexFrom_of_ne g word cs (ne_backslash hl he), if_neg hb, hs] at h
    exact ih h

theorem joinIdentifiers_cons (h : ∀ u ∈ ts.head?, ¬BothIdentifiers t u) :
    joinIdentifiers (t :: ts) = t :: joinIdentifiers ts := by
  rw [joinIdentifiers]
  rintro a b ts' rfl hts
  cases hts
  exact h (.ident b) rfl ⟨a, b, rfl, rfl⟩

theorem conjoined_joinIdentifiers (ts : List Token) : Conjoined ts (joinIdentifiers ts) := by
  match ts with
  | [] => exact .nil
  | [t] =>
    rw [joinIdentifiers_cons (by simp)]
    exact .single t
  | t :: u :: ts =>
    have h := conjoined_joinIdentifiers (u :: ts)
    by_cases hb : BothIdentifiers t u
    · obtain ⟨a, b, rfl, rfl⟩ := hb
      rw [joinIdentifiers]
      exact .conjoin a b h
    · rw [joinIdentifiers_cons (by simpa using hb)]
      exact .keep hb h

namespace Conjoined

theorem head?_eq (h : Conjoined ts us) : us.head? = ts.head? := by
  cases h <;> rfl

theorem isChain (h : Conjoined ts us) : us.IsChain fun t u => ¬BothIdentifiers t u := by
  induction h with
  | nil => exact .nil
  | single t => exact .singleton t
  | conjoin a b h ih =>
    refine List.isChain_cons_cons.2 ⟨?_, List.isChain_cons.2 ⟨fun u _ => ?_, ih⟩⟩
    · rintro ⟨_, _, _, hu⟩
      cases hu
    · rintro ⟨_, _, ht, _⟩
      cases ht
  | keep hn h ih =>
    refine List.isChain_cons.2 ⟨fun v hv => ?_, ih⟩
    rw [h.head?_eq] at hv
    cases hv
    exact hn

theorem eq_self (h : Conjoined ts us) (hc : ts.IsChain fun t u => ¬BothIdentifiers t u) :
    us = ts := by
  induction h with
  | nil => rfl
  | single t => rfl
  | conjoin a b h ih => exact absurd ⟨a, b, rfl, rfl⟩ (List.isChain_cons_cons.1 hc).1
  | keep hn h ih => rw [ih (List.isChain_cons_cons.1 hc).2]

theorem writable (h : Conjoined ts us) (hw : ∀ t ∈ ts, Writable g t) : ∀ t ∈ us, Writable g t := by
  induction h with
  | nil => exact hw
  | single t => exact hw
  | conjoin a b h ih =>
    obtain ⟨ha, hw⟩ := List.forall_mem_cons.1 hw
    exact List.forall_mem_cons.2 ⟨ha, List.forall_mem_cons.2 ⟨trivial, ih hw⟩⟩
  | keep hn h ih =>
    obtain ⟨ht, hw⟩ := List.forall_mem_cons.1 hw
    exact List.forall_mem_cons.2 ⟨ht, ih hw⟩

end Conjoined

theorem ReadAs.writable (h : ReadAs g ts us) (hw : ∀ t ∈ ts, Writable g t) :
    ∀ t ∈ us, Writable g t := by
  cases g with
  | infixed => exact Conjoined.writable h hw
  | functional =>
    rw [ReadAs] at h
    rwa [h]

theorem exists_lex {text : String} (hn : text ≠ "") :
    ∃ us, lex g text = .ok us ∧ ReadAs g (lexFrom g [] text.toList) us := by
  have he : ¬text.isEmpty := by simpa using hn
  rw [lex, if_neg he]
  cases g with
  | infixed => exact ⟨_, rfl, conjoined_joinIdentifiers _⟩
  | functional => exact ⟨_, rfl, rfl⟩

theorem readAs_of_lex {text : String} (h : lex g text = .ok us) :
    ReadAs g (lexFrom g [] text.toList) us := by
  have hn : text ≠ "" := by
    rintro rfl
    cases h
  obtain ⟨us', h', hr⟩ := exists_lex (g := g) hn
  cases h.symm.trans h'
  exact hr

theorem writable_of_mem_lex {text : String} (h : lex g text = .ok us) (ht : t ∈ us) :
    Writable g t :=
  (readAs_of_lex h).writable (fun _ => writable_of_mem_lexFrom) t ht

theorem ReadAs.eq_of_lex {text : String} (h : lex g text = .ok ts) (hr : ReadAs g ts us) :
    us = ts := by
  have ht := readAs_of_lex h
  cases g with
  | infixed => exact Conjoined.eq_self hr (Conjoined.isChain ht)
  | functional => exact hr

theorem Layout.exists_lex {cs : List Char} (h : Layout g ts cs) (hw : ∀ t ∈ ts, Writable g t)
    {before after : List Char} (hb : Blanks before) (ha : Blanks after) :
    ∃ us, lex g (String.ofList (before ++ cs ++ after)) = .ok us ∧ ReadAs g ts us := by
  have hl : lexFrom g [] (before ++ cs ++ after) = ts := by
    rw [List.append_assoc, lexFrom_blanks g hb, h.lexFrom_append hw ha]
  have hn : String.ofList (before ++ cs ++ after) ≠ "" := by
    intro he
    have hc : before ++ cs ++ after = [] := by simpa using congrArg String.toList he
    rw [hc] at hl
    exact h.ne_nil hl.symm
  have hx := Lexer.exists_lex (g := g) hn
  rwa [String.toList_ofList, hl] at hx

end Lexed

/-- Writing tokens and reading them are inverse to each other, but for the `&` that goes between
identifiers. -/
structure RoundTrips (g : Grammar) : Prop where
  lex_layout : ∀ ts cs before after, Layout g ts cs → (∀ t ∈ ts, Writable g t) → Blanks before →
    Blanks after → ∃ us, lex g (String.ofList (before ++ cs ++ after)) = .ok us ∧ ReadAs g ts us
  exists_layout : ∀ ts, ts ≠ [] → ∃ cs, Layout g ts cs
  lex_ok : ∀ text, text ≠ "" → ∃ us, lex g text = .ok us
  writable : ∀ text us, lex g text = .ok us → ∀ t ∈ us, Writable g t
  isChain : g = .infixed → ∀ text us, lex g text = .ok us →
    us.IsChain fun t u => ¬BothIdentifiers t u
  lex_again : ∀ text us, lex g text = .ok us → ∀ cs before after, Layout g us cs → Blanks before →
    Blanks after → lex g (String.ofList (before ++ cs ++ after)) = .ok us

theorem roundTrips (g : Grammar) : RoundTrips g := by
  constructor
  case lex_layout => exact fun ts cs before after h ht hb ha => h.exists_lex ht hb ha
  case exists_layout => exact fun ts => exists_layout
  case lex_ok =>
    intro text hn
    obtain ⟨us, h, _⟩ := exists_lex (g := g) hn
    exact ⟨us, h⟩
  case writable => exact fun text us h t => writable_of_mem_lex h
  case isChain =>
    rintro rfl text us h
    exact Conjoined.isChain (readAs_of_lex h)
  case lex_again =>
    intro text us h cs before after hl hb ha
    obtain ⟨us', h', hr⟩ := hl.exists_lex (fun _ => writable_of_mem_lex h) hb ha
    rwa [hr.eq_of_lex h] at h'

theorem lex_of_spaced_identifiers : ∃ us,
    lex .infixed "\ta\\ b  \\& ! 50%\n" = .ok us ∧
      ReadAs .infixed [.ident "a b", .ident "&", .not, .ident "50%"] us := by
  have hb : ∀ gap ∈ [['\t'], [' ', ' '], [' '], ['\n']], Blanks gap := by
    simp [Blanks, Blank.isBlank]
  have h : Layout .infixed [.ident "a b", .ident "&", .not, .ident "50%"]
      "a\\ b  \\& ! 50%".toList :=
    .cons (.ident "a b") (by decide) (hb [' ', ' '] (by decide))
      (.cons (.ident "&") (by decide) (hb [' '] (by decide))
        (.cons .not (by decide) (hb [' '] (by decide)) (.single (.ident "50%"))))
  have hw : ∀ t ∈ [Token.ident "a b", .ident "&", .not, .ident "50%"], Writable .infixed t := by
    simp [Writable]
  exact (roundTrips .infixed).lex_layout _ _ ['\t'] ['\n'] h hw (hb _ (by decide))
    (hb _ (by decide))

end Retrieval.Query.Lexer
