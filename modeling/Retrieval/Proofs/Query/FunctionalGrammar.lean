import Retrieval.Query.Functional
import Retrieval.Proofs.Query.Connective

namespace Retrieval.Query.Functional

mutual

/-- The tokens of one expression: an identifier, or an operator with its operands in
parentheses. -/
inductive Clause : List Token → Expr → Prop
  | ident (text : String) : Clause [.ident text] (.term text)
  | not {ts : List Token} {e : Expr} (h : Clause ts e) :
    Clause (.not :: .leftParen :: (ts ++ [.rightParen])) (.not e)
  | connective {ts : List Token} {es : List Expr} (c : Connective) (h : Operands ts es) :
    Clause (c.token :: .leftParen :: (ts ++ [.rightParen])) (c.node es)

inductive Operands : List Token → List Expr → Prop
  | one {ts : List Token} {e : Expr} (h : Clause ts e) : Operands ts [e]
  | more {ts us : List Token} {e : Expr} {es : List Expr} (h : Clause ts e)
    (hs : Operands us es) : Operands (ts ++ .comma :: us) (e :: es)

end

mutual

theorem Clause.proper {ts : List Token} {e : Expr} (h : Clause ts e) : e.Proper := by
  match h with
  | .ident text => trivial
  | .not h =>
    rw [Expr.Proper]
    exact Clause.proper h
  | .connective c h =>
    obtain ⟨hn, hp⟩ := Operands.proper h
    exact c.proper_node hn hp

theorem Operands.proper {ts : List Token} {es : List Expr} (h : Operands ts es) :
    es ≠ [] ∧ Expr.ProperList es := by
  match h with
  | .one h => exact ⟨List.cons_ne_nil _ _, Clause.proper h, trivial⟩
  | .more h hs =>
    obtain ⟨_, hp⟩ := Operands.proper hs
    exact ⟨List.cons_ne_nil _ _, Clause.proper h, hp⟩

end

theorem boundary_notMem_parenthesized {t : Token} {ts : List Token} (ht : t ≠ .boundary)
    (h : .boundary ∉ ts) : .boundary ∉ t :: .leftParen :: (ts ++ [.rightParen]) := by
  simp [ht.symm, h]

mutual

theorem Clause.boundary_notMem {ts : List Token} {e : Expr} (h : Clause ts e) :
    .boundary ∉ ts := by
  match h with
  | .ident text => simp
  | .not h => exact boundary_notMem_parenthesized (by decide) (Clause.boundary_notMem h)
  | .connective c h =>
    exact boundary_notMem_parenthesized c.token_ne_boundary (Operands.boundary_notMem h)

theorem Operands.boundary_notMem {ts : List Token} {es : List Expr} (h : Operands ts es) :
    .boundary ∉ ts := by
  match h with
  | .one h => exact Clause.boundary_notMem h
  | .more h hs =>
    have ht := Clause.boundary_notMem h
    have hu := Operands.boundary_notMem hs
    simp [ht, hu]

end

/-- The terms among some operands. That is all that has to be remembered of these. -/
def Remembers (seen : List String) (before : List Expr) : Prop :=
  ∀ text, text ∈ seen ↔ .term text ∈ before

namespace Remembers

variable {seen : List String} {before : List Expr} {text : String} {e : Expr}

theorem repeats_iff (h : Remembers seen before) :
    Expr.repeats before (.term text) = true ↔ text ∈ seen := by
  rw [Expr.repeats_term_iff, h]

theorem push (h : Remembers seen before) (text : String) :
    Remembers (text :: seen) (before ++ [.term text]) := by
  intro text'
  rw [List.mem_append, ← h, List.mem_singleton, Expr.term.injEq, List.mem_cons, or_comm]

theorem push_of_mem (h : Remembers seen before) (ht : text ∈ seen) :
    Remembers seen (before ++ [.term text]) := by
  intro text'
  rw [List.mem_append, ← h, List.mem_singleton, Expr.term.injEq]
  exact ⟨.inl, fun h => h.elim id (· ▸ ht)⟩

theorem push_of_ne (h : Remembers seen before) (he : ∀ text, e ≠ .term text) :
    Remembers seen (before ++ [e]) := by
  intro text
  have hn : Expr.term text ≠ e := (he text).symm
  rw [h, List.mem_append, List.mem_singleton, or_iff_left hn]

theorem dropRepeated_eq (h : Remembers seen before) (es : List Expr) :
    dropRepeated seen es = Expr.withoutRepeats before es := by
  induction es generalizing seen before with
  | nil => rw [dropRepeated, Expr.withoutRepeats]
  | cons e es ih =>
    rw [Expr.withoutRepeats]
    by_cases he : ∃ text, e = .term text
    · obtain ⟨text, rfl⟩ := he
      rw [dropRepeated]
      by_cases ht : text ∈ seen
      · rw [if_pos ht, if_pos (h.repeats_iff.2 ht), ih (h.push_of_mem ht)]
      · rw [if_neg ht, if_neg (mt h.repeats_iff.1 ht), ih (h.push text)]
    · have hne : ∀ text, e ≠ .term text := fun text h => he ⟨text, h⟩
      rw [dropRepeated.eq_3 _ _ _ hne, if_neg (Expr.not_repeats hne), ih (h.push_of_ne hne)]

end Remembers

theorem dropRepeated_nil (es : List Expr) : dropRepeated [] es = Expr.withoutRepeats [] es := by
  apply Remembers.dropRepeated_eq
  intro text
  exact iff_of_false List.not_mem_nil List.not_mem_nil

end Retrieval.Query.Functional
