import Retrieval.Batch
import Retrieval.Proofs.Catalog

namespace Retrieval.Batch

inductive Outcome
  | indexed
  | duplicate
  | failed
  | unsupported
  deriving DecidableEq, Repr

def Report.count (r : Report) (o : Outcome) : Report :=
  let r := { r with processed := r.processed + 1 }
  match o with
  | .indexed => { r with indexed := r.indexed + 1 }
  | .duplicate => { r with duplicates := r.duplicates + 1 }
  | .failed => { r with failed := r.failed + 1 }
  | .unsupported => { r with unsupported := r.unsupported + 1 }

def Report.counted (r : Report) : Outcome → Nat
  | .indexed => r.indexed
  | .duplicate => r.duplicates
  | .failed => r.failed
  | .unsupported => r.unsupported

def Report.countAll (r : Report) (os : List Outcome) : Report :=
  os.foldl count r

variable (detect : Detector) (c : Catalog)

def outcome : Entry → Outcome
  | .unreadable => .failed
  | .article key a =>
    match detect a.indexableText with
    | none => .unsupported
    | some l => if (c.index l).accepts key then .indexed else .duplicate

def handle : Entry → Catalog
  | .unreadable => c
  | .article key a =>
    match detect a.indexableText with
    | none => c
    | some l => (c.addArticle l a key).1

def handleAll (es : List Entry) : Catalog :=
  es.foldl (handle detect) c

def outcomes (c : Catalog) : List Entry → List Outcome
  | [] => []
  | e :: es => outcome detect c e :: outcomes (handle detect c e) es

theorem step_eq (r : Report) (e : Entry) :
    step detect r c e = (r.count (outcome detect c e), handle detect c e) := by
  cases e with
  | unreadable => rfl
  | article key a =>
    rw [step, outcome, handle]
    cases detect a.indexableText with
    | none => rfl
    | some l =>
      have hs := c.addArticle_snd l a key
      dsimp only
      rw [← hs]
      split
      · next h => simp [h, Report.count]
      · next h => simp [h, Report.count]

theorem files_step (r : Report) (e : Entry) : (step detect r c e).2.files = c.files := by
  rw [step_eq]
  cases e with
  | unreadable => rfl
  | article key a =>
    dsimp only [handle]
    split
    · rfl
    · exact c.files_setIndex _ _

theorem outcomes_append (es es' : List Entry) : outcomes detect c (es ++ es') =
    outcomes detect c es ++ outcomes detect (handleAll detect c es) es' := by
  induction es generalizing c with
  | nil => rfl
  | cons e es ih => rw [List.cons_append, outcomes, outcomes, ih, List.cons_append]; rfl

theorem handleAll_append (es es' : List Entry) :
    handleAll detect c (es ++ es') = handleAll detect (handleAll detect c es) es' :=
  List.foldl_append

theorem cancelled_count (r : Report) (o : Outcome) : (r.count o).cancelled = r.cancelled := by
  cases o <;> rfl

theorem countAll_cons (r : Report) (o : Outcome) (os : List Outcome) :
    r.countAll (o :: os) = (r.count o).countAll os := rfl

theorem counted_count (r : Report) (o o' : Outcome) :
    (r.count o).counted o' = r.counted o' + if o == o' then 1 else 0 := by
  cases o <;> cases o' <;> rfl

theorem counted_countAll (r : Report) (os : List Outcome) (o : Outcome) :
    (r.countAll os).counted o = r.counted o + os.count o := by
  induction os generalizing r with
  | nil => rfl
  | cons o' os ih =>
    rw [countAll_cons, ih, counted_count, List.count_cons]
    omega

/-- A batch handles its entries in order up to one before which it finds that it is cancelled, or up
to the last. -/
theorem exists_runFrom_eq (cancelled : Nat → Bool) (n : Nat) (r : Report) (hr : ¬r.cancelled)
    (es : List Entry) : ∃ done rest, es = done ++ rest ∧
      (∀ i < done.length, ¬cancelled (n + i)) ∧ (rest ≠ [] → cancelled (n + done.length)) ∧
      runFrom cancelled detect n r c es =
        ({ r.countAll (outcomes detect c done) with cancelled := !rest.isEmpty },
          handleAll detect c done) := by
  induction es generalizing n r c with
  | nil =>
    refine ⟨[], [], rfl, by simp, by simp, ?_⟩
    have hf : r.cancelled = false := Bool.eq_false_iff.2 hr
    change (r, c) = ({ r with cancelled := false }, c)
    rw [← hf]
  | cons e es ih =>
    by_cases hc : cancelled n
    · refine ⟨[], e :: es, rfl, by simp, fun _ => hc, ?_⟩
      rw [runFrom, if_pos hc]
      rfl
    · have hr' : ¬(r.count (outcome detect c e)).cancelled := by rwa [cancelled_count]
      obtain ⟨done, rest, rfl, hd, hs, he⟩ := ih (handle detect c e) (n + 1) _ hr'
      refine ⟨e :: done, rest, rfl, ?_, ?_, ?_⟩
      · intro i hi
        cases i with
        | zero => exact hc
        | succ i =>
          have hlt : i < done.length := by simpa using hi
          have h := hd i hlt
          rwa [Nat.add_assoc, Nat.add_comm 1 i] at h
      · intro hn
        have h := hs hn
        rwa [Nat.add_assoc, Nat.add_comm 1] at h
      · rw [runFrom, if_neg hc, step_eq]
        exact he

theorem runFrom_uncancelled (n : Nat) (r : Report) (es : List Entry) :
    runFrom (fun _ => false) detect n r c es =
      (r.countAll (outcomes detect c es), handleAll detect c es) := by
  induction es generalizing n r c with
  | nil => rfl
  | cons e es ih =>
    rw [runFrom, if_neg Bool.false_ne_true, step_eq]
    exact ih (handle detect c e) (n + 1) _

theorem runAll_eq (es : List Entry) : runAll detect c es =
    (Report.none.countAll (outcomes detect c es), handleAll detect c es) :=
  runFrom_uncancelled detect c 0 Report.none es

theorem catalog_runAll (es : List Entry) : (runAll detect c es).2 = handleAll detect c es := by
  rw [runAll_eq]

theorem counted_runAll (es : List Entry) (o : Outcome) :
    (runAll detect c es).1.counted o = (outcomes detect c es).count o := by
  have h := counted_countAll Report.none (outcomes detect c es) o
  have hz : Report.none.counted o = 0 := by cases o <;> rfl
  rw [runAll_eq, h, hz, Nat.zero_add]

theorem indexed_runAll (es : List Entry) :
    (runAll detect c es).1.indexed = (outcomes detect c es).count .indexed :=
  counted_runAll detect c es .indexed

theorem duplicates_runAll (es : List Entry) :
    (runAll detect c es).1.duplicates = (outcomes detect c es).count .duplicate :=
  counted_runAll detect c es .duplicate

theorem exists_run (cancelled : Nat → Bool) (es : List Entry) : ∃ done rest, es = done ++ rest ∧
    (run cancelled detect c es).2 = handleAll detect c done ∧
    (run cancelled detect c es).1.indexed = (outcomes detect c done).count .indexed := by
  obtain ⟨done, rest, rfl, _, _, he⟩ :=
    exists_runFrom_eq detect c cancelled 0 Report.none Bool.false_ne_true es
  refine ⟨done, rest, rfl, ?_, ?_⟩
  · rw [run, he]
  · have hi := counted_countAll Report.none (outcomes detect c done) .indexed
    rw [run, he, ← Nat.zero_add (List.count _ _)]
    exact hi

theorem runFrom_eq_of_not_cancelled {cancelled : Nat → Bool} {n : Nat} {r : Report}
    {es : List Entry} (h : ¬(runFrom cancelled detect n r c es).1.cancelled) :
    runFrom cancelled detect n r c es = runFrom (fun _ => false) detect n r c es := by
  induction es generalizing n r c with
  | nil => rfl
  | cons e es ih =>
    by_cases hc : cancelled n
    · rw [runFrom, if_pos hc] at h
      exact absurd rfl h
    · rw [runFrom, if_neg hc] at h ⊢
      exact ih _ h

end Retrieval.Batch
