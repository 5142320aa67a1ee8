namespace Retrieval.Text

/-- A regular expression. Of two alternatives the left one is preferred, and more repetitions are
preferred to fewer. -/
inductive Pattern
  | empty
  | char (p : Char → Bool)
  | seq (a b : Pattern)
  | alt (a b : Pattern)
  | many (a : Pattern)

namespace Pattern

def repeated (step : List Char → List (List Char)) : Nat → List Char → List (List Char)
  | 0, cs => [cs]
  | n + 1, cs => (step cs).flatMap (repeated step n) ++ [cs]

/-- What is left of a text behind each way to match its start, the preferred way first. Repetitions
are of patterns that do not match the empty text. -/
def rests : Pattern → List Char → List (List Char)
  | empty, cs => [cs]
  | char p, cs =>
    match cs with
    | [] => []
    | c :: cs => if p c then [cs] else []
  | seq a b, cs => (a.rests cs).flatMap b.rests
  | alt a b, cs => a.rests cs ++ b.rests cs
  | many a, cs => repeated a.rests cs.length cs

def rest? (p : Pattern) (cs : List Char) : Option (List Char) :=
  (p.rests cs).head?

def match? (p : Pattern) (cs : List Char) : Option (List Char) :=
  (p.rest? cs).map fun rest => cs.take (cs.length - rest.length)

def word (w : List Char) : Pattern :=
  w.foldr (fun c p => seq (char (· == c)) p) empty

def optional (a : Pattern) : Pattern :=
  alt a empty

def plus (a : Pattern) : Pattern :=
  seq a (many a)

attribute [local simp] rests

variable {p : Char → Bool} {c : Char} {cs t : List Char}

theorem isPrefix_of_match? {a : Pattern} (h : a.match? cs = some t) : t <+: cs := by
  obtain ⟨rest, -, rfl⟩ := Option.map_eq_some_iff.1 h
  exact List.take_prefix _ cs

theorem match?_eq {a : Pattern} {t? : Option (List Char)}
    (hsome : ∀ t, t? = some t → ∃ rest, a.rest? cs = some rest ∧ t ++ rest = cs)
    (hnone : ∀ rest, a.rest? cs = some rest → t? ≠ none) : a.match? cs = t? := by
  cases ht : t? with
  | none =>
    have hr : a.rest? cs = none := Option.eq_none_iff_forall_ne_some.2 fun rest h => hnone rest h ht
    rw [match?, hr, Option.map_none]
  | some t =>
    obtain ⟨rest, hr, rfl⟩ := hsome t ht
    rw [match?, hr, Option.map_some, List.length_append, Nat.add_sub_cancel, List.take_left]

theorem rest?_seq (a b : Pattern) (cs : List Char) :
    (seq a b).rest? cs = (a.rests cs).findSome? b.rest? := by
  rw [rest?, rests, List.head?_flatMap]
  rfl

theorem match?_alt (a b : Pattern) (cs : List Char) :
    (alt a b).match? cs = (a.match? cs).or (b.match? cs) := by
  rw [match?, match?, match?, rest?, rests, List.head?_append, Option.map_or, rest?, rest?]

theorem rest?_char_seq (a : Pattern) (c : Char) (cs : List Char) :
    (seq (char p) a).rest? (c :: cs) = if p c then a.rest? cs else none := by
  rw [rest?_seq, rests]
  split <;> simp

theorem rest?_char_seq_eq_some_iff {a : Pattern} {rest : List Char} :
    (seq (char p) a).rest? cs = some rest ↔
      ∃ c behind, cs = c :: behind ∧ p c ∧ a.rest? behind = some rest := by
  cases cs with
  | nil => simp [rest?]
  | cons c cs =>
    rw [rest?_char_seq]
    split
    · next hc =>
      constructor
      · intro h
        exact ⟨c, cs, rfl, hc, h⟩
      · rintro ⟨_, _, he, -, h⟩
        rwa [(List.cons.inj he).2]
    · next hc =>
      refine iff_of_false nofun ?_
      rintro ⟨d, _, he, hd, -⟩
      exact hc ((List.cons.inj he).1 ▸ hd)

theorem rest?_char_eq_some_iff {rest : List Char} :
    (char p).rest? cs = some rest ↔ ∃ c, cs = c :: rest ∧ p c := by
  cases cs with
  | nil => simp [rest?]
  | cons c cs =>
    rw [rest?, rests]
    split
    · next hc =>
      constructor
      · intro h
        exact ⟨c, by rw [Option.some.inj h], hc⟩
      · rintro ⟨_, he, -⟩
        rw [(List.cons.inj he).2]
        rfl
    · next hc =>
      refine iff_of_false nofun ?_
      rintro ⟨d, he, hd⟩
      exact hc ((List.cons.inj he).1 ▸ hd)

theorem rests_many_char_of_pos (h : p c) (cs : List Char) :
    (many (char p)).rests (c :: cs) = (many (char p)).rests cs ++ [c :: cs] := by
  rw [rests, List.length_cons, repeated, rests]
  simp only [h, if_true, List.flatMap_singleton]
  rfl

theorem rests_many_char_of_neg (h : ¬p c) (cs : List Char) :
    (many (char p)).rests (c :: cs) = [c :: cs] := by
  rw [rests, List.length_cons, repeated, rests]
  simp [h]

/-- What follows a run comes behind all of it if it cannot start within the run, or if it can always
start. -/
theorem findSome?_run {α : Type} {f : List Char → Option α}
    (h : (∀ c cs, p c → f (c :: cs) = none) ∨ ∀ cs, f cs ≠ none) (cs : List Char) :
    ((many (char p)).rests cs).findSome? f = f (cs.dropWhile p) := by
  induction cs with
  | nil => simp [repeated]
  | cons c cs ih =>
    by_cases hc : p c
    · rw [rests_many_char_of_pos hc, List.findSome?_append, ih, List.dropWhile_cons_of_pos hc,
        List.findSome?_singleton]
      rcases h with hn | hs
      · rw [hn c cs hc, Option.or_none]
      · obtain ⟨a, ha⟩ := Option.ne_none_iff_exists'.1 (hs (cs.dropWhile p))
        rw [ha, Option.some_or]
    · rw [rests_many_char_of_neg hc, List.dropWhile_cons_of_neg hc, List.findSome?_singleton]

theorem rest?_run_seq {a : Pattern}
    (h : (∀ c cs, p c → a.rest? (c :: cs) = none) ∨ ∀ cs, a.rest? cs ≠ none) (cs : List Char) :
    (seq (many (char p)) a).rest? cs = a.rest? (cs.dropWhile p) := by
  rw [rest?_seq, findSome?_run h]

theorem rest?_plus_seq {a : Pattern}
    (h : (∀ c cs, p c → a.rest? (c :: cs) = none) ∨ ∀ cs, a.rest? cs ≠ none) (c : Char)
    (cs : List Char) : (seq (plus (char p)) a).rest? (c :: cs) =
      if p c then a.rest? (cs.dropWhile p) else none := by
  rw [rest?_seq, plus, rests, rests]
  split
  · rw [List.flatMap_singleton, findSome?_run h]
  · rfl

theorem rest?_plus_seq_eq_some_iff {a : Pattern} {rest : List Char}
    (h : (∀ c cs, p c → a.rest? (c :: cs) = none) ∨ ∀ cs, a.rest? cs ≠ none) :
    (seq (plus (char p)) a).rest? cs = some rest ↔
      cs.takeWhile p ≠ [] ∧ a.rest? (cs.dropWhile p) = some rest := by
  cases cs with
  | nil => simp [rest?, plus]
  | cons c cs =>
    rw [rest?_plus_seq h]
    by_cases hc : p c
    · simp [hc]
    · simp [hc]

theorem rest?_many_char (cs : List Char) : (many (char p)).rest? cs = some (cs.dropWhile p) := by
  induction cs with
  | nil => rfl
  | cons c cs ih =>
    by_cases hc : p c
    · rw [rest?, rests_many_char_of_pos hc, List.head?_append, ← rest?, ih, Option.some_or,
        List.dropWhile_cons_of_pos hc]
    · rw [rest?, rests_many_char_of_neg hc, List.dropWhile_cons_of_neg hc, List.head?_cons]

theorem rest?_plus_eq_some_iff {rest : List Char} :
    (plus (char p)).rest? cs = some rest ↔ cs.takeWhile p ≠ [] ∧ cs.dropWhile p = rest := by
  cases cs with
  | nil => simp [rest?, plus]
  | cons c cs =>
    rw [plus, rest?_char_seq, rest?_many_char]
    by_cases hc : p c
    · simp [hc]
    · simp [hc]

theorem rests_word (w cs : List Char) :
    (word w).rests cs = if w.isPrefixOf cs then [cs.drop w.length] else [] := by
  induction w generalizing cs with
  | nil => rfl
  | cons c w ih =>
    rw [word, List.foldr_cons, ← word, rests]
    cases cs with
    | nil => rfl
    | cons d cs =>
      rw [rests, List.isPrefixOf_cons_cons, BEq.comm (a := c)]
      cases d == c with
      | false => rfl
      | true =>
        rw [if_pos rfl, List.flatMap_singleton, ih, Bool.true_and]
        rfl

theorem rests_word_append (v w cs : List Char) :
    (word (v ++ w)).rests cs = ((word v).rests cs).flatMap (word w).rests := by
  induction v generalizing cs with
  | nil =>
    change (word w).rests cs = [cs].flatMap (word w).rests
    rw [List.flatMap_singleton]
  | cons c v ih =>
    have h : (word (v ++ w)).rests = fun cs => ((word v).rests cs).flatMap (word w).rests :=
      funext ih
    change (seq (char (· == c)) (word (v ++ w))).rests cs =
      ((seq (char (· == c)) (word v)).rests cs).flatMap (word w).rests
    rw [rests, rests, h, List.flatMap_assoc]

theorem rests_alt_seq (a b d : Pattern) (cs : List Char) :
    (seq (alt a b) d).rests cs = (seq a d).rests cs ++ (seq b d).rests cs := by
  change (a.rests cs ++ b.rests cs).flatMap d.rests = _
  rw [List.flatMap_append]
  rfl

theorem rests_optional_seq (v o w cs : List Char) :
    (seq (seq (word v) (optional (word o))) (word w)).rests cs =
      (word (v ++ (o ++ w))).rests cs ++ (word (v ++ w)).rests cs := by
  have ho : (word (o ++ w)).rests = fun cs => ((word o).rests cs).flatMap (word w).rests :=
    funext (rests_word_append o w)
  rw [rests_word_append, rests_word_append, ho, rests, rests, rests_word v]
  split
  · rw [List.flatMap_singleton, List.flatMap_singleton, List.flatMap_singleton, optional, rests,
      List.flatMap_append, rests, List.flatMap_singleton]
  · rfl

end Pattern

end Retrieval.Text
