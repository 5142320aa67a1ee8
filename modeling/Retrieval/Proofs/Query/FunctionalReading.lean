import Retrieval.Proofs.Query.Connective
import Retrieval.Query.Functional

namespace Retrieval.Query.Functional

/-- A reading succeeds with a value and these tokens left. -/
def Gives {α : Type} {ts : List Token} (r : Reading α ts) (a : α) (rest : List Token) : Prop :=
  ∃ h, r = .ok (a, ⟨rest, h⟩)

theorem not_gives_error {α : Type} {ts rest : List Token} {e : QueryError} {a : α} :
    ¬Gives (.error e : Reading α ts) a rest := by
  rintro ⟨_, h⟩
  cases h

theorem gives_ok_iff {α : Type} {ts rest rest' : List Token} {a a' : α}
    {h : rest'.length < ts.length} :
    Gives (.ok (a', ⟨rest', h⟩) : Reading α ts) a rest ↔ a = a' ∧ rest = rest' := by
  constructor
  · rintro ⟨_, h'⟩
    cases h'
    exact ⟨rfl, rfl⟩
  · rintro ⟨rfl, rfl⟩
    exact ⟨h, rfl⟩

theorem expect_self (t : Token) (e : QueryError) (ts : List Token) :
    expect t e (t :: ts) = .ok ((), ⟨ts, Nat.lt_succ_self ts.length⟩) := by
  rw [expect, if_pos rfl]

theorem eq_cons_of_expect {t : Token} {e : QueryError} {ts rest : List Token} {u : Unit}
    {h : rest.length < ts.length} (he : expect t e ts = .ok (u, ⟨rest, h⟩)) : ts = t :: rest := by
  cases ts with
  | nil => cases he
  | cons t' ts =>
    rw [expect] at he
    split at he
    · next ht =>
      cases he
      rw [ht]
    · cases he

theorem gives_bind_iff {α β : Type} {ts us rest : List Token} {r : Reading α ts} {b : β}
    {f : α × { rest : List Token // rest.length < ts.length } → Reading β us} :
    Gives (r.bind f) b rest ↔ ∃ x, r = .ok x ∧ Gives (f x) b rest := by
  cases r with
  | error e => exact iff_of_false not_gives_error fun ⟨_, h, _⟩ => by cases h
  | ok x =>
    constructor
    · intro h
      exact ⟨x, rfl, h⟩
    · rintro ⟨_, hx, h⟩
      cases hx
      exact h

def parenthesized {α : Type} (read : (ts : List Token) → Reading α ts) (ts : List Token) :
    Reading α ts :=
  (expect .leftParen .missingLeftParen ts).bind fun l =>
    (read l.2.1).bind fun r =>
      (expect .rightParen .missingRightParen r.2.1).bind fun l' =>
        .ok (r.1, ⟨l'.2.1, Nat.lt_trans l'.2.2 (Nat.lt_trans r.2.2 l.2.2)⟩)

theorem gives_parenthesized_iff {α : Type} {read : (ts : List Token) → Reading α ts}
    {ts rest : List Token} {a : α} : Gives (parenthesized read ts) a rest ↔
      ∃ ts', ts = .leftParen :: ts' ∧ Gives (read ts') a (.rightParen :: rest) := by
  simp only [parenthesized, gives_bind_iff, gives_ok_iff]
  constructor
  · rintro ⟨⟨_, ts', h'⟩, hl, ⟨a', ts'', h''⟩, ha, ⟨_, rest', hr'⟩, hr, rfl, rfl⟩
    cases eq_cons_of_expect hr
    exact ⟨ts', eq_cons_of_expect hl, h'', ha⟩
  · rintro ⟨ts', rfl, ⟨h', h⟩⟩
    exact ⟨_, expect_self .leftParen _ ts', _, h, _, expect_self .rightParen _ rest, rfl, rfl⟩

def operation {α : Type} {ts : List Token} (depth : Nat) (t : Token) (node : α → Expr)
    (r : Reading α ts) : Reading Expr (t :: ts) :=
  if Expr.maxDepth ≤ depth then .error .tooDeep
  else r.bind fun x => .ok (node x.1, ⟨x.2.1, Nat.lt_succ_of_lt x.2.2⟩)

theorem gives_operation_iff {α : Type} {ts rest : List Token} {depth : Nat} {t : Token}
    {node : α → Expr} {r : Reading α ts} {e : Expr} :
    Gives (operation depth t node r) e rest ↔
      depth < Expr.maxDepth ∧ ∃ a, Gives r a rest ∧ e = node a := by
  rw [operation]
  by_cases hd : Expr.maxDepth ≤ depth
  · rw [if_pos hd]
    exact iff_of_false not_gives_error fun h => Nat.not_lt.2 hd h.1
  · rw [if_neg hd, and_iff_right (Nat.not_le.1 hd), gives_bind_iff]
    simp only [gives_ok_iff]
    constructor
    · rintro ⟨⟨a, ts', h'⟩, hr, rfl, rfl⟩
      exact ⟨a, ⟨h', hr⟩, rfl⟩
    · rintro ⟨a, ⟨h', hr⟩, rfl⟩
      exact ⟨_, hr, rfl, rfl⟩

theorem gives_expression_ident_iff {depth : Nat} {text : String} {ts rest : List Token}
    {e : Expr} : Gives (expression depth (.ident text :: ts)) e rest ↔
      depth < Expr.maxDepth ∧ e = .term text ∧ rest = ts := by
  rw [expression]
  by_cases hd : Expr.maxDepth ≤ depth
  · rw [if_pos hd]
    exact iff_of_false not_gives_error fun h => Nat.not_lt.2 hd h.1
  · rw [if_neg hd, gives_ok_iff, and_iff_right (Nat.not_le.1 hd)]

theorem expression_not (depth : Nat) (ts : List Token) : expression depth (.not :: ts) =
    operation depth .not .not (parenthesized (expression (depth + 1)) ts) := by
  rw [expression, operation, parenthesized]
  cases expect .leftParen .missingLeftParen ts with
  | error e => rfl
  | ok l =>
    cases he : expression (depth + 1) l.2.1 with
    | error e => simp only [he, Except.bind]
    | ok r =>
      cases hr : expect .rightParen .missingRightParen r.2.1 <;> simp only [he, hr, Except.bind]

theorem expression_connective (depth : Nat) (c : Connective) (ts : List Token) :
    expression depth (c.token :: ts) =
      operation depth c.token (fun es => c.node (dropRepeated [] es)) (arguments depth ts) := by
  cases c with
  | and =>
    rw [Connective.token, expression, operation]
    cases arguments depth ts <;> rfl
  | or =>
    rw [Connective.token, expression, operation]
    cases arguments depth ts <;> rfl

theorem arguments_eq (depth : Nat) (ts : List Token) :
    arguments depth ts = parenthesized (operands depth) ts := by
  rw [arguments, parenthesized]
  cases expect .leftParen .missingLeftParen ts with
  | error e => rfl
  | ok l =>
    cases hs : operands depth l.2.1 with
    | error e => simp only [hs, Except.bind]
    | ok r =>
      cases hr : expect .rightParen .missingRightParen r.2.1 <;> simp only [hs, hr, Except.bind]

theorem gives_expression_not_iff {depth : Nat} {ts rest : List Token} {e : Expr} :
    Gives (expression depth (.not :: ts)) e rest ↔ depth < Expr.maxDepth ∧
      ∃ ts' e', ts = .leftParen :: ts' ∧
        Gives (expression (depth + 1) ts') e' (.rightParen :: rest) ∧ e = .not e' := by
  rw [expression_not, gives_operation_iff]
  simp only [gives_parenthesized_iff]
  constructor
  · rintro ⟨hd, e', ⟨ts', hl, he⟩, rfl⟩
    exact ⟨hd, ts', e', hl, he, rfl⟩
  · rintro ⟨hd, ts', e', hl, he, rfl⟩
    exact ⟨hd, e', ⟨ts', hl, he⟩, rfl⟩

theorem gives_expression_connective_iff {depth : Nat} {c : Connective} {ts rest : List Token}
    {e : Expr} : Gives (expression depth (c.token :: ts)) e rest ↔ depth < Expr.maxDepth ∧
      ∃ ts' es, ts = .leftParen :: ts' ∧ Gives (operands depth ts') es (.rightParen :: rest) ∧
        e = c.node (dropRepeated [] es) := by
  rw [expression_connective, gives_operation_iff, arguments_eq]
  simp only [gives_parenthesized_iff]
  constructor
  · rintro ⟨hd, es, ⟨ts', hl, hs⟩, rfl⟩
    exact ⟨hd, ts', es, hl, hs, rfl⟩
  · rintro ⟨hd, ts', es, hl, hs, rfl⟩
    exact ⟨hd, es, ⟨ts', hl, hs⟩, rfl⟩

theorem gives_operands_iff {depth : Nat} {ts rest : List Token} {es : List Expr} :
    Gives (operands depth ts) es rest ↔
      (∃ e, Gives (expression (depth + 1) ts) e rest ∧ rest.head? ≠ some .comma ∧ es = [e]) ∨
      ∃ e es' ts', Gives (expression (depth + 1) ts) e (.comma :: ts') ∧
        Gives (operands depth ts') es' rest ∧ es = e :: es' := by
  rw [operands]
  constructor
  · rintro ⟨_, h⟩
    split at h
    · cases h
    · next e ts₁ h₁ he =>
      split at h
      · cases h
      · next es' ts₂ h₂ hs =>
        cases h
        exact .inr ⟨e, es', ts₁, ⟨h₁, he⟩, ⟨h₂, hs⟩, rfl⟩
    · next e r hn he =>
      cases h
      refine .inl ⟨e, ⟨_, he⟩, ?_, rfl⟩
      intro hc
      obtain ⟨ts', hr⟩ := List.head?_eq_some_iff.1 hc
      cases hr
      exact hn _ _ rfl
  · rintro (⟨e, ⟨h', h⟩, hn, rfl⟩ | ⟨e, es', ts', ⟨h', h⟩, ⟨hs', hs⟩, rfl⟩)
    · refine ⟨h', ?_⟩
      simp only [h]
      split
      · next hx => cases hx
      · next hx =>
        cases hx
        exact absurd rfl hn
      · next hx =>
        cases hx
        rfl
    · simp only [h, hs]
      exact ⟨by simp at h'; omega, rfl⟩

end Retrieval.Query.Functional
