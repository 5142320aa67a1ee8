import Retrieval.Proofs.Query.Escapes

namespace Retrieval.Query.Lexer

open Text

/-- Characters that cannot be in an identifier unless they are escaped. -/
def isReserved (g : Grammar) (c : Char) : Bool :=
  Blank.isBlank c || c == '\\' || (symbol? g c).isSome

def escape (escaped : Char → Bool) : List Char → List Char
  | [] => []
  | c :: cs => if escaped c then '\\' :: c :: escape escaped cs else c :: escape escaped cs

theorem isReserved_eq_false {g : Grammar} {c : Char} : isReserved g c = false ↔
    ¬Blank.isBlank c ∧ c ≠ '\\' ∧ symbol? g c = none := by
  simp [isReserved, and_assoc]

theorem not_blank_of_symbol {g : Grammar} {c : Char} {t : Token} (h : symbol? g c = some t) :
    ¬Blank.isBlank c ∧ c ≠ '\\' := by
  unfold symbol? at h
  split at h
  case h_8 => cases h
  all_goals decide

theorem lexFrom_symbol {g : Grammar} {c : Char} {t : Token} (h : symbol? g c = some t)
    (word cs : List Char) :
    lexFrom g word (c :: cs) = identifier word ++ t :: lexFrom g [] cs := by
  obtain ⟨hb, hc⟩ := not_blank_of_symbol h
  rw [lexFrom_of_ne g word cs hc, if_neg hb, h]

theorem lexFrom_escape {g : Grammar} {escaped : Char → Bool}
    (he : ∀ c, isReserved g c → escaped c) (word cs rest : List Char) :
    lexFrom g word (escape escaped cs ++ rest) = lexFrom g (cs.reverse ++ word) rest := by
  induction cs generalizing word with
  | nil => rfl
  | cons c cs ih =>
    rw [escape, List.reverse_cons, List.append_assoc, List.singleton_append, ← ih]
    split
    · rfl
    · next hn =>
      have hr : isReserved g c = false := by simpa using mt (he c) hn
      obtain ⟨hb, hc, hs⟩ := isReserved_eq_false.1 hr
      rw [List.cons_append, lexFrom_of_ne g word _ hc, if_neg hb, hs]

theorem endsInEscape_cons {c : Char} (hc : c ≠ '\\') (cs : List Char) :
    endsInEscape (c :: cs) = endsInEscape cs := by
  rw [endsInEscape.eq_4 _ _ (fun h _ => hc h) (fun _ _ h _ => hc h)]

theorem endsInEscape_escape {escaped : Char → Bool} (he : escaped '\\') (cs rest : List Char) :
    endsInEscape (escape escaped cs ++ rest) = endsInEscape rest := by
  induction cs with
  | nil => rfl
  | cons c cs ih =>
    rw [escape]
    split
    · rw [List.cons_append, List.cons_append, endsInEscape, ih]
    · next hn =>
      have hc : c ≠ '\\' := fun h => hn (h ▸ he)
      rw [List.cons_append, endsInEscape_cons hc, ih]

def Stops (g : Grammar) (cs : List Char) : Prop :=
  ∀ c ∈ cs.head?, ∃ t, symbol? g c = some t

theorem stops_nil (g : Grammar) : Stops g [] := by
  simp [Stops]

theorem stops_cons {g : Grammar} {c : Char} {t : Token} (h : symbol? g c = some t)
    (cs : List Char) : Stops g (c :: cs) := by
  simp [Stops, h]

theorem lexFrom_of_stops {g : Grammar} {cs : List Char} (h : Stops g cs) (word : List Char) :
    lexFrom g word cs = identifier word ++ lexFrom g [] cs := by
  cases cs with
  | nil => rw [lexFrom_nil, lexFrom_nil, identifier, List.append_nil]
  | cons c cs =>
    obtain ⟨t, ht⟩ := h c rfl
    rw [lexFrom_symbol ht, lexFrom_symbol ht, identifier, List.nil_append]

theorem identifier_reverse_toList {text : String} (h : text ≠ "") :
    identifier text.toList.reverse = [.ident text] := by
  have hn : text.toList.reverse = [] → False := by simpa using h
  rw [identifier.eq_2 _ hn, List.reverse_reverse, String.ofList_toList]

/-- A text is read as these tokens wherever it stands before something that ends an identifier,
and leaves no escape open. -/
structure Spells (g : Grammar) (cs : List Char) (ts : List Token) : Prop where
  lexFrom_eq : ∀ rest, Stops g rest → lexFrom g [] (cs ++ rest) = ts ++ lexFrom g [] rest
  endsInEscape_eq : ∀ rest, endsInEscape (cs ++ rest) = endsInEscape rest

theorem spells_escape {g : Grammar} {escaped : Char → Bool}
    (he : ∀ c, isReserved g c → escaped c) {text : String} (ht : text ≠ "") :
    Spells g (escape escaped text.toList) [.ident text] where
  lexFrom_eq rest hr := by
    rw [lexFrom_escape he, List.append_nil, lexFrom_of_stops hr, identifier_reverse_toList ht]
  endsInEscape_eq := endsInEscape_escape (he '\\' (by simp [isReserved])) _

section Symbols

variable {g : Grammar} {c : Char} {t : Token} {cs cs' : List Char} {ts ts' : List Token}

theorem spells_symbol (h : symbol? g c = some t) : Spells g [c] [t] where
  lexFrom_eq rest _ := lexFrom_symbol h [] rest
  endsInEscape_eq rest := endsInEscape_cons (not_blank_of_symbol h).2 rest

theorem Spells.cons (h : symbol? g c = some t) (hs : Spells g cs ts) :
    Spells g (c :: cs) (t :: ts) where
  lexFrom_eq rest hr := by
    rw [List.cons_append, lexFrom_symbol h, hs.lexFrom_eq rest hr]
    rfl
  endsInEscape_eq rest := by
    rw [List.cons_append, endsInEscape_cons (not_blank_of_symbol h).2, hs.endsInEscape_eq]

theorem Spells.append (hs : Spells g cs ts) (hs' : Spells g cs' ts') (hc : Stops g cs') :
    Spells g (cs ++ cs') (ts ++ ts') where
  lexFrom_eq rest hr := by
    have hst : Stops g (cs' ++ rest) := by
      cases cs' with
      | nil => exact hr
      | cons c cs' => exact hc
    rw [List.append_assoc, hs.lexFrom_eq _ hst, hs'.lexFrom_eq rest hr, List.append_assoc]
  endsInEscape_eq rest := by
    rw [List.append_assoc, hs.endsInEscape_eq, hs'.endsInEscape_eq]

end Symbols

theorem Spells.lexFrom {g : Grammar} {cs : List Char} {ts : List Token} (h : Spells g cs ts) :
    lexFrom g [] cs = ts := by
  have hl := h.lexFrom_eq [] (stops_nil g)
  rwa [List.append_nil, lexFrom_nil, identifier, List.append_nil] at hl

theorem Spells.isEmpty_eq_false {g : Grammar} {cs : List Char} {ts : List Token}
    (h : Spells g cs ts) (ht : ts ≠ []) : (String.ofList cs).isEmpty = false := by
  have hc : cs ≠ [] := by
    rintro rfl
    exact ht h.lexFrom.symm
  simpa using hc

theorem Spells.endsInEscape {g : Grammar} {cs : List Char} {ts : List Token}
    (h : Spells g cs ts) : endsInEscape cs = false := by
  have he := h.endsInEscape_eq []
  rwa [List.append_nil] at he

end Retrieval.Query.Lexer
