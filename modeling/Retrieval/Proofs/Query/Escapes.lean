import Retrieval.Query.Lexer

namespace Retrieval.Query.Lexer

open Text

def endsInEscape : List Char → Bool
  | [] => false
  | ['\\'] => true
  | '\\' :: _ :: cs => endsInEscape cs
  | _ :: cs => endsInEscape cs

/-- A character stands somewhere in a text without a backslash that takes it in. -/
def Unescaped (c : Char) (cs : List Char) : Prop :=
  ∃ before after, cs = before ++ c :: after ∧ endsInEscape before = false

theorem ne_backslash {c : Char} {cs : List Char} (hl : c = '\\' → cs = [] → False)
    (he : ∀ c' cs', c = '\\' → cs = c' :: cs' → False) : c ≠ '\\' := by
  intro hc
  cases cs with
  | nil => exact hl hc rfl
  | cons c' cs' => exact he c' cs' hc rfl

theorem lexFrom_of_ne (g : Grammar) (word : List Char) {c : Char} (cs : List Char)
    (hc : c ≠ '\\') : lexFrom g word (c :: cs) =
      if Blank.isBlank c then identifier word ++ lexFrom g [] cs
      else match symbol? g c with
        | some t => identifier word ++ t :: lexFrom g [] cs
        | none => lexFrom g (c :: word) cs := by
  conv => lhs; unfold lexFrom
  split
  · next h => cases h
  · next h =>
    cases h
    exact absurd rfl hc
  · next h =>
    cases h
    exact absurd rfl hc
  · next h =>
    cases h
    rfl

theorem lexFrom_escaped (g : Grammar) (word : List Char) (c : Char) (cs : List Char) :
    lexFrom g word ('\\' :: c :: cs) = lexFrom g (c :: word) cs := rfl

theorem lexFrom_nil (g : Grammar) (word : List Char) : lexFrom g word [] = identifier word := rfl

theorem lexFrom_boundary (word cs : List Char) : lexFrom .functional word ('%' :: cs) =
    identifier word ++ .boundary :: lexFrom .functional [] cs := by
  rw [lexFrom_of_ne _ _ _ (by decide)]
  rfl

/-- Outside an escape a boundary parts the text: neither side depends on the other. -/
theorem lexFrom_append_boundary {before : List Char} (h : endsInEscape before = false)
    (word after : List Char) : lexFrom .functional word (before ++ '%' :: after) =
      lexFrom .functional word before ++ .boundary :: lexFrom .functional [] after := by
  induction before using endsInEscape.induct generalizing word with
  | case1 => rw [List.nil_append, lexFrom_boundary, lexFrom_nil]
  | case2 => cases h
  | case3 c cs ih =>
    rw [endsInEscape] at h
    rw [List.cons_append, List.cons_append, lexFrom_escaped, lexFrom_escaped, ih h]
  | case4 c cs hl he ih =>
    have hc := ne_backslash hl he
    rw [endsInEscape.eq_4 _ _ hl he] at h
    rw [List.cons_append, lexFrom_of_ne _ _ _ hc, lexFrom_of_ne _ _ _ hc]
    by_cases hb : Blank.isBlank c
    · rw [if_pos hb, if_pos hb, ih h, List.append_assoc]
    · rw [if_neg hb, if_neg hb]
      cases symbol? .functional c with
      | none => exact ih h _
      | some t =>
        simp only [ih h, List.append_assoc, List.cons_append]

theorem exists_lexFrom_append_singleton {cs : List Char} (h : endsInEscape cs = true)
    (g : Grammar) (word : List Char) (c : Char) :
    ∃ ts text, lexFrom g word (cs ++ [c]) = ts ++ [.ident text] := by
  induction cs using endsInEscape.induct generalizing word with
  | case1 => cases h
  | case2 =>
    refine ⟨[], String.ofList (c :: word).reverse, ?_⟩
    rw [List.singleton_append, lexFrom_escaped, lexFrom_nil]
    rfl
  | case3 c cs ih =>
    rw [endsInEscape] at h
    rw [List.cons_append, List.cons_append, lexFrom_escaped]
    exact ih h _
  | case4 c' cs hl he ih =>
    have hc := ne_backslash hl he
    rw [endsInEscape.eq_4 _ _ hl he] at h
    rw [List.cons_append, lexFrom_of_ne _ _ _ hc]
    obtain ⟨ts, text, ht⟩ := ih h []
    by_cases hb : Blank.isBlank c'
    · refine ⟨identifier word ++ ts, text, ?_⟩
      rw [if_pos hb, ht, List.append_assoc]
    · rw [if_neg hb]
      cases symbol? g c' with
      | none => exact ih h _
      | some t =>
        refine ⟨identifier word ++ t :: ts, text, ?_⟩
        simp only [ht, List.append_assoc, List.cons_append]

end Retrieval.Query.Lexer
