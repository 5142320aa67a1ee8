import Retrieval.Proofs.Batch.Resumption
import Retrieval.Proofs.Catalog.Routing

namespace Retrieval

theorem filterMap_cons_eq_append {α β : Type} (f : α → Option β) (a : α) (as : List α) :
    (a :: as).filterMap f = (f a).toList ++ as.filterMap f := by
  rw [List.filterMap_eq_flatMap_toList, List.flatMap_cons, ← List.filterMap_eq_flatMap_toList]

namespace Batch

open Index (Document)

/-- What an entry has for an index, with the language of that. -/
def target (detect : Detector) : Entry → Option (Language × Document)
  | .unreadable => none
  | .article key a => (detect a.indexableText).map fun l => (l, ⟨a.indexableText, key⟩)

def targets (detect : Detector) (es : List Entry) : List (Language × Document) :=
  es.filterMap (target detect)

def isUnsupported (detect : Detector) : Entry → Bool
  | .article _ a => (detect a.indexableText).isNone
  | .unreadable => false

section Target

variable {detect : Detector} {e : Entry} {t : Language × Document}

theorem handle_of_target_eq_none (h : target detect e = none) (c : Catalog) :
    handle detect c e = c := by
  cases e with
  | unreadable => rfl
  | article key a =>
    have hd := Option.map_eq_none_iff.1 h
    rw [handle, hd]

theorem handle_of_target_eq_some (h : target detect e = some t) (c : Catalog) :
    handle detect c e = c.put t := by
  cases e with
  | unreadable => cases h
  | article key a =>
    obtain ⟨l, hd, rfl⟩ := Option.map_eq_some_iff.1 h
    rw [handle_article hd]
    rfl

theorem handle_eq_putAll (detect : Detector) (c : Catalog) (e : Entry) :
    handle detect c e = c.putAll (target detect e).toList := by
  cases ht : target detect e with
  | none => exact handle_of_target_eq_none ht c
  | some t => exact handle_of_target_eq_some ht c

theorem outcome_of_target_eq_some (h : target detect e = some t) (c : Catalog) :
    outcome detect c e = if (c.index t.1).accepts t.2.path then .indexed else .duplicate := by
  cases e with
  | unreadable => cases h
  | article key a =>
    obtain ⟨l, hd, rfl⟩ := Option.map_eq_some_iff.1 h
    rw [outcome, hd]

theorem outcome_eq_indexed_iff_accepts (h : target detect e = some t) (c : Catalog) :
    outcome detect c e = .indexed ↔ (c.index t.1).accepts t.2.path := by
  rw [outcome_of_target_eq_some h]
  split
  · next ha => exact iff_of_true rfl ha
  · next ha => exact iff_of_false nofun ha

theorem outcome_ne_indexed_of_target_eq_none (h : target detect e = none) (c : Catalog) :
    outcome detect c e ≠ .indexed := by
  intro ho
  obtain ⟨key, a, l, rfl, hd, _⟩ := outcome_eq_indexed_iff.1 ho
  rw [target, hd] at h
  cases h

theorem outcome_eq_failed_iff (c : Catalog) : outcome detect c e = .failed ↔ e = .unreadable := by
  cases e with
  | unreadable => exact iff_of_true rfl rfl
  | article key a =>
    have he : Entry.article key a ≠ .unreadable := by simp
    refine iff_of_false ?_ he
    rw [outcome]
    cases detect a.indexableText with
    | none => simp
    | some l => by_cases ha : (c.index l).accepts key <;> simp [ha]

theorem outcome_eq_unsupported_iff (c : Catalog) :
    outcome detect c e = .unsupported ↔ isUnsupported detect e := by
  cases e with
  | unreadable => exact iff_of_false nofun nofun
  | article key a =>
    rw [outcome, isUnsupported]
    cases detect a.indexableText with
    | none => exact iff_of_true rfl rfl
    | some l => by_cases ha : (c.index l).accepts key <;> simp [ha]

end Target

variable (detect : Detector) (c : Catalog) (es : List Entry)

theorem documents_handle (e : Entry) : (handle detect c e).documents =
    c.documents + if outcome detect c e = .indexed then 1 else 0 := by
  cases h : target detect e with
  | none =>
    rw [handle_of_target_eq_none h, if_neg (outcome_ne_indexed_of_target_eq_none h c), Nat.add_zero]
  | some t =>
    rw [handle_of_target_eq_some h, Catalog.documents_put]
    simp only [outcome_eq_indexed_iff_accepts h c]

theorem handleAll_eq_putAll : handleAll detect c es = c.putAll (targets detect es) := by
  induction es generalizing c with
  | nil => rfl
  | cons e es ih =>
    have h := ih (handle detect c e)
    rw [handleAll, List.foldl_cons, ← handleAll, h, handle_eq_putAll, targets, targets,
      filterMap_cons_eq_append, Catalog.putAll_append]

theorem documents_handleAll : (handleAll detect c es).documents =
    c.documents + (outcomes detect c es).count .indexed := by
  induction es generalizing c with
  | nil => rfl
  | cons e es ih =>
    have h := ih (handle detect c e)
    have he := documents_handle detect c e
    rw [handleAll, List.foldl_cons, ← handleAll, h, he, outcomes, List.count_cons]
    simp only [beq_iff_eq]
    omega

theorem length_outcomes : (outcomes detect c es).length = es.length := by
  induction es generalizing c with
  | nil => rfl
  | cons e es ih => rw [outcomes, List.length_cons, ih, List.length_cons]

theorem length_eq_add_counts (os : List Outcome) : os.length =
    os.count .indexed + os.count .duplicate + os.count .failed + os.count .unsupported := by
  induction os with
  | nil => rfl
  | cons o os ih => cases o <;> simp [ih] <;> omega

theorem count_failed_outcomes : (outcomes detect c es).count .failed = es.count .unreadable := by
  induction es generalizing c with
  | nil => rfl
  | cons e es ih =>
    rw [outcomes, List.count_cons, List.count_cons, ih]
    simp only [beq_iff_eq, outcome_eq_failed_iff]

theorem count_unsupported_outcomes :
    (outcomes detect c es).count .unsupported = es.countP (isUnsupported detect) := by
  induction es generalizing c with
  | nil => rfl
  | cons e es ih =>
    rw [outcomes, List.count_cons, List.countP_cons, ih]
    simp only [beq_iff_eq, outcome_eq_unsupported_iff]

theorem counted_none_countAll (os : List Outcome) (o : Outcome) :
    (Report.none.countAll os).counted o = os.count o := by
  have h := counted_countAll Report.none os o
  have hz : Report.none.counted o = 0 := by cases o <;> rfl
  rwa [hz, Nat.zero_add] at h

theorem processed_countAll (r : Report) (os : List Outcome) :
    (r.countAll os).processed = r.processed + os.length := by
  induction os generalizing r with
  | nil => rfl
  | cons o os ih =>
    have hp : (r.count o).processed = r.processed + 1 := by cases o <;> rfl
    rw [countAll_cons, ih, hp, List.length_cons]
    omega

theorem processed_none_countAll (os : List Outcome) :
    (Report.none.countAll os).processed = os.length := by
  have h := processed_countAll Report.none os
  have hz : Report.none.processed = 0 := rfl
  rwa [hz, Nat.zero_add] at h

theorem processed_eq_add_counted (os : List Outcome) :
    let r := Report.none.countAll os
    r.processed = r.indexed + r.duplicates + r.failed + r.unsupported := by
  intro r
  have hc : ∀ o, r.counted o = os.count o := counted_none_countAll os
  change r.processed =
    r.counted .indexed + r.counted .duplicate + r.counted .failed + r.counted .unsupported
  rw [hc, hc, hc, hc, ← length_eq_add_counts, ← processed_none_countAll]

/-- A report and a catalog that account for a batch up to some entry: what was handled, what became
of it, and what each index has got. -/
structure Accounts (cancelled : Nat → Bool) (detect : Detector) (c : Catalog) (es : List Entry)
    (r : Report) (c' : Catalog) : Prop where
  not_cancelled : ∀ n < r.processed, ¬cancelled n
  /-- A batch ends where it finds the flag raised, or with its last entry. -/
  cancelled_iff : r.cancelled ↔ r.processed < es.length ∧ cancelled r.processed
  processed_eq_length : ¬r.cancelled → r.processed = es.length
  processed_eq : r.processed = r.indexed + r.duplicates + r.failed + r.unsupported
  failed_eq : r.failed = (es.take r.processed).count .unreadable
  unsupported_eq : r.unsupported = (es.take r.processed).countP (isUnsupported detect)
  index?_eq_none_iff : ∀ l, c'.index? l = none ↔
    c.index? l = none ∧ Catalog.documentsFor l (targets detect (es.take r.processed)) = []
  index_eq : ∀ l, c'.index l = ((c.index l).addTexts
    (Catalog.documentsFor l (targets detect (es.take r.processed)))).1
  documents_eq : c'.documents = c.documents + r.indexed

/-- A batch indexes the documents of each language as if there were no others, and its report says
what became of every entry. -/
theorem run_accounts (cancelled : Nat → Bool) (detect : Detector) (c : Catalog) (es : List Entry) :
    Accounts cancelled detect c es (run cancelled detect c es).1 (run cancelled detect c es).2 := by
  obtain ⟨done, rest, rfl, hbefore, hat, he⟩ :=
    exists_runFrom_eq detect c cancelled 0 Report.none Bool.false_ne_true es
  simp only [Nat.zero_add] at hbefore hat
  rw [run, he]
  let os := outcomes detect c done
  let r := Report.none.countAll os
  have hcount : ∀ o, r.counted o = os.count o := counted_none_countAll os
  have hprocessed : r.processed = done.length := by
    rw [processed_none_countAll, length_outcomes]
  have htake : (done ++ rest).take r.processed = done := by rw [hprocessed, List.take_left]
  have hcatalog : handleAll detect c done = c.putAll (targets detect done) :=
    handleAll_eq_putAll detect c done
  constructor
  case not_cancelled => exact fun n hn => hbefore n (hprocessed ▸ hn)
  case cancelled_iff =>
    change (!rest.isEmpty) = true ↔ r.processed < (done ++ rest).length ∧ cancelled r.processed
    rw [hprocessed, List.length_append, Bool.not_eq_true', List.isEmpty_eq_false_iff]
    constructor
    · intro hr
      have hl := List.length_pos_iff.2 hr
      exact ⟨by omega, hat hr⟩
    · rintro ⟨hl, _⟩
      exact List.length_pos_iff.1 (by omega)
  case processed_eq_length =>
    intro hr
    have hr : rest = [] := by simpa using hr
    change r.processed = _
    rw [hprocessed, hr, List.append_nil]
  case processed_eq => exact processed_eq_add_counted os
  case failed_eq =>
    change r.counted .failed = ((done ++ rest).take r.processed).count .unreadable
    rw [htake, hcount, count_failed_outcomes]
  case unsupported_eq =>
    change r.counted .unsupported = ((done ++ rest).take r.processed).countP (isUnsupported detect)
    rw [htake, hcount, count_unsupported_outcomes]
  case index?_eq_none_iff =>
    intro l
    change (handleAll detect c done).index? l = none ↔ c.index? l = none ∧
      Catalog.documentsFor l (targets detect ((done ++ rest).take r.processed)) = []
    rw [htake, hcatalog, Catalog.index?_putAll_eq_none_iff]
  case index_eq =>
    intro l
    change (handleAll detect c done).index l = ((c.index l).addTexts
      (Catalog.documentsFor l (targets detect ((done ++ rest).take r.processed)))).1
    rw [htake, hcatalog, Catalog.index_putAll]
  case documents_eq =>
    change (handleAll detect c done).documents = c.documents + r.counted .indexed
    rw [documents_handleAll, hcount]

end Batch

end Retrieval
