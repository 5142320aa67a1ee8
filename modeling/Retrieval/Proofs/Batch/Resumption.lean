import Retrieval.Proofs.Batch.Outcome

namespace Retrieval.Batch

variable {detect : Detector} {c : Catalog} {e : Entry}

theorem outcome_eq_indexed_iff : outcome detect c e = .indexed ↔
    ∃ key a l, e = .article key a ∧ detect a.indexableText = some l ∧ (c.index l).accepts key := by
  cases e with
  | unreadable => simp [outcome]
  | article key a =>
    rw [outcome]
    cases hd : detect a.indexableText with
    | none => simp [hd]
    | some l => by_cases ha : (c.index l).accepts key <;> simp [hd, ha]

theorem handle_article {key : String} {a : Article} {l : Language}
    (h : detect a.indexableText = some l) :
    handle detect c (.article key a) = (c.addArticle l a key).1 := by
  rw [handle, h]

theorem index_handle (detect : Detector) (c : Catalog) (e : Entry) (l : Language) :
    (handle detect c e).index l = c.index l ∨
    ∃ text path, (handle detect c e).index l = ((c.index l).addText text path).1 := by
  cases e with
  | unreadable => exact .inl rfl
  | article key a =>
    cases hd : detect a.indexableText with
    | none =>
      rw [handle, hd]
      exact .inl rfl
    | some l' =>
      rw [handle_article hd, Catalog.index_addArticle]
      split
      · next hl => exact .inr ⟨a.indexableText, key, by rw [hl]⟩
      · exact .inl rfl

theorem not_accepts_handle {l : Language} {key : String} (h : ¬(c.index l).accepts key) :
    ¬((handle detect c e).index l).accepts key := by
  rcases index_handle detect c e l with hi | ⟨text, path, hi⟩
  · rwa [hi]
  · rw [hi]
    exact Index.not_accepts_addText h text path

theorem handle_of_ne_indexed (h : outcome detect c e ≠ .indexed) : handle detect c e = c := by
  cases e with
  | unreadable => rfl
  | article key a =>
    cases hd : detect a.indexableText with
    | none => rw [handle, hd]
    | some l =>
      have hn : ¬(c.index l).accepts key := fun ha =>
        h (outcome_eq_indexed_iff.2 ⟨key, a, l, rfl, hd, ha⟩)
      rw [handle_article hd]
      exact Catalog.addArticle_of_not_accepts hn a

theorem outcome_handle_self (c : Catalog) (e : Entry) :
    outcome detect (handle detect c e) e ≠ .indexed := by
  intro h
  obtain ⟨key, a, l, rfl, hd, ha⟩ := outcome_eq_indexed_iff.1 h
  rw [handle_article hd, Catalog.index_addArticle, if_pos rfl] at ha
  exact (c.index l).not_accepts_addText_self a.indexableText key ha

/-- What would not be indexed would not be indexed after other entries either. -/
theorem outcome_handle (h : outcome detect c e ≠ .indexed) (e' : Entry) :
    outcome detect (handle detect c e') e ≠ .indexed := by
  intro h'
  obtain ⟨key, a, l, rfl, hd, ha⟩ := outcome_eq_indexed_iff.1 h'
  have hn : ¬(c.index l).accepts key := fun ha =>
    h (outcome_eq_indexed_iff.2 ⟨key, a, l, rfl, hd, ha⟩)
  exact not_accepts_handle hn ha

theorem outcome_handleAll (h : outcome detect c e ≠ .indexed) (es : List Entry) :
    outcome detect (handleAll detect c es) e ≠ .indexed := by
  induction es generalizing c with
  | nil => exact h
  | cons e' es ih => exact ih (outcome_handle h e')

/-- None of some entries would be indexed. -/
def Settled (detect : Detector) (c : Catalog) (es : List Entry) : Prop :=
  ∀ e ∈ es, outcome detect c e ≠ .indexed

theorem settled_handleAll (c : Catalog) (es : List Entry) :
    Settled detect (handleAll detect c es) es := by
  induction es generalizing c with
  | nil => exact fun _ h => absurd h List.not_mem_nil
  | cons e es ih =>
    exact List.forall_mem_cons.2 ⟨outcome_handleAll (outcome_handle_self c e) es, ih _⟩

theorem Settled.handleAll_eq {es : List Entry} (h : Settled detect c es) :
    handleAll detect c es = c := by
  induction es with
  | nil => rfl
  | cons e es ih =>
    obtain ⟨he, hs⟩ := List.forall_mem_cons.1 h
    rw [handleAll, List.foldl_cons, handle_of_ne_indexed he]
    exact ih hs

theorem Settled.outcomes_eq {es : List Entry} (h : Settled detect c es) :
    outcomes detect c es = es.map (outcome detect c) := by
  induction es with
  | nil => rfl
  | cons e es ih =>
    obtain ⟨he, hs⟩ := List.forall_mem_cons.1 h
    rw [outcomes, handle_of_ne_indexed he, ih hs, List.map_cons]

theorem Settled.count_indexed {es : List Entry} (h : Settled detect c es) :
    (outcomes detect c es).count .indexed = 0 := by
  rw [h.outcomes_eq, List.count_eq_zero, List.mem_map]
  rintro ⟨e, he, ho⟩
  exact h e he ho

def isSupported (detect : Detector) : Entry → Bool
  | .article _ a => (detect a.indexableText).isSome
  | .unreadable => false

theorem isSupported_eq (c : Catalog) (e : Entry) : isSupported detect e =
    (outcome detect c e == .indexed || outcome detect c e == .duplicate) := by
  cases e with
  | unreadable => rfl
  | article key a =>
    rw [isSupported, outcome]
    cases detect a.indexableText with
    | none => rfl
    | some l => by_cases ha : (c.index l).accepts key <;> simp [ha]

theorem count_indexed_add_count_duplicate (detect : Detector) (c : Catalog) (es : List Entry) :
    (outcomes detect c es).count .indexed + (outcomes detect c es).count .duplicate =
      es.countP (isSupported detect) := by
  induction es generalizing c with
  | nil => rfl
  | cons e es ih =>
    have h := ih (handle detect c e)
    rw [outcomes, List.count_cons, List.count_cons, List.countP_cons, isSupported_eq c e, ← h]
    cases outcome detect c e with
    | indexed => exact Nat.add_right_comm _ _ _
    | duplicate | failed | unsupported => rfl

/-- A batch that was cancelled, wherever that was, and then run again as a whole leaves what one run
leaves, and both together have indexed what that has. Nothing is left to a third run. -/
theorem run_again (cancelled : Nat → Bool) (detect : Detector) (c : Catalog) (es : List Entry) :
    let first := run cancelled detect c es
    let second := runAll detect first.2 es
    let third := runAll detect second.2 es
    let full := runAll detect c es
    second.2 = full.2 ∧ first.1.indexed + second.1.indexed = full.1.indexed ∧
      third.2 = second.2 ∧ third.1.indexed = 0 ∧
      third.1.duplicates = full.1.indexed + full.1.duplicates := by
  intro first second third full
  obtain ⟨done, rest, hes, hfirst, hindexed⟩ := exists_run detect c cancelled es
  have hfull : full.2 = handleAll detect c es := catalog_runAll detect c es
  have hdone : Settled detect first.2 done := by
    rw [hfirst]
    exact settled_handleAll c done
  -- the second run goes through what the first has done without a change
  have hsecond : second.2 = full.2 := by
    rw [hfull, catalog_runAll, hes, handleAll_append, handleAll_append, hdone.handleAll_eq, hfirst]
  have hall : Settled detect second.2 es := by
    rw [hsecond, hfull]
    exact settled_handleAll c es
  refine ⟨hsecond, ?_, ?_, ?_, ?_⟩
  · rw [indexed_runAll, indexed_runAll, hindexed, hes, outcomes_append, outcomes_append,
      List.count_append, List.count_append, hdone.count_indexed, hdone.handleAll_eq, hfirst,
      Nat.zero_add]
  · rw [catalog_runAll]
    exact hall.handleAll_eq
  · rw [indexed_runAll]
    exact hall.count_indexed
  · have ht := count_indexed_add_count_duplicate detect second.2 es
    have hf := count_indexed_add_count_duplicate detect c es
    rw [hall.count_indexed, Nat.zero_add] at ht
    rw [duplicates_runAll, indexed_runAll, duplicates_runAll, ht, hf]

end Retrieval.Batch
