import Retrieval.Proofs.Batch.Accounting
import Retrieval.Proofs.Server.Activity

namespace Retrieval.Batch

open Index (Document)
open Server (Phase)

/-- A batch that shares its catalog with others. The flag is its own. -/
structure Indexer where
  detect : Detector
  raised : Bool
  report : Report
  phase : Phase

namespace Indexer

def start (detect : Detector) (es : List Entry) : Indexer :=
  ⟨detect, false, .none, .looking es⟩

inductive Looks (x : Indexer) : Indexer → Prop
  | last (hp : x.phase = .looking []) : Looks x { x with phase := .ended }
  | cancelled {e : Entry} {es : List Entry} (hp : x.phase = .looking (e :: es)) (hf : x.raised) :
      Looks x { x with report := { x.report with cancelled := true }, phase := .ended }
  | next {e : Entry} {es : List Entry} (hp : x.phase = .looking (e :: es)) (hf : ¬x.raised) :
      Looks x { x with phase := .holding e es }

def unhandled (x : Indexer) : List Entry :=
  match x.phase with
  | .looking es => es
  | .holding e es => e :: es
  | .ended => []

end Indexer

structure Crew where
  catalog : Catalog
  indexers : List Indexer

namespace Crew

def start (c : Catalog) (jobs : List (Detector × List Entry)) : Crew :=
  ⟨c, jobs.map fun job => .start job.1 job.2⟩

inductive Event
  | cancelled (i : Nat)
  | looked (i : Nat)
  | handled (i : Nat) (t : Option (Language × Document)) (o : Outcome)
  deriving DecidableEq, Repr

/-- What happens without anything else in between: a catalog takes one document at a time, and a
flag may be raised at any moment. -/
inductive Step (a : Crew) : Event → Crew → Prop
  | cancel (xs ys : List Indexer) (x : Indexer) (hx : a.indexers = xs ++ x :: ys) :
      Step a (.cancelled xs.length) ⟨a.catalog, xs ++ { x with raised := true } :: ys⟩
  | look (xs ys : List Indexer) (x : Indexer) {x' : Indexer} (hx : a.indexers = xs ++ x :: ys)
      (h : x.Looks x') : Step a (.looked xs.length) ⟨a.catalog, xs ++ x' :: ys⟩
  | handle (xs ys : List Indexer) (x : Indexer) {e : Entry} {es : List Entry} {report : Report}
      {c : Catalog} (hx : a.indexers = xs ++ x :: ys) (hp : x.phase = .holding e es)
      (h : Batch.step x.detect x.report a.catalog e = (report, c)) :
      Step a (.handled xs.length (target x.detect e) (outcome x.detect a.catalog e))
        ⟨c, xs ++ { x with report := report, phase := .looking es } :: ys⟩

inductive Run : Crew → List Event → Crew → Prop
  | nil (a : Crew) : Run a [] a
  | cons {a b c : Crew} {e : Event} {es : List Event} (h : Step a e b) (hs : Run b es c) :
      Run a (e :: es) c

theorem Run.append {a b c : Crew} {es es' : List Event} (h : Run a es b) (h' : Run b es' c) :
    Run a (es ++ es') c := by
  induction h with
  | nil a => exact h'
  | cons h _ ih => exact .cons h (ih h')

theorem cancelled_countAll (r : Report) (os : List Outcome) :
    (r.countAll os).cancelled = r.cancelled := by
  induction os generalizing r with
  | nil => rfl
  | cons o os ih => rw [countAll_cons, ih, cancelled_count]

/-- An indexer that nothing comes between gets to its end as a batch does that runs alone. -/
theorem exists_run_handleAll (c : Catalog) (xs ys : List Indexer) (x : Indexer) (es : List Entry)
    (hp : x.phase = .looking es) (hf : ¬x.raised) :
    ∃ events, Run ⟨c, xs ++ x :: ys⟩ events ⟨handleAll x.detect c es, xs ++ { x with
      report := x.report.countAll (outcomes x.detect c es), phase := .ended } :: ys⟩ := by
  induction es generalizing c x with
  | nil => exact ⟨_, .cons (.look xs ys x rfl (.last hp)) (.nil _)⟩
  | cons e es ih =>
    let r := x.report.count (outcome x.detect c e)
    obtain ⟨events, hr⟩ := ih (Batch.handle x.detect c e)
      { x with report := r, phase := .looking es } rfl hf
    have hs := step_eq x.detect c x.report e
    exact ⟨_, .cons (.look xs ys x rfl (.next hp hf)) (.cons (.handle xs ys _ rfl rfl hs) hr)⟩

namespace Event

def indexer : Event → Nat
  | .cancelled i | .looked i | .handled i _ _ => i

def target? : Event → Option (Language × Document)
  | .handled _ t _ => t
  | _ => none

def outcome? : Event → Option Outcome
  | .handled _ _ o => some o
  | _ => none

def indexed? (e : Event) : Option (Language × Document) :=
  if e.outcome? = some .indexed then e.target? else none

def counts (i : Nat) (o : Outcome) (e : Event) : Bool :=
  e.indexer == i && e.outcome? == some o

end Event

def offered (events : List Event) : List (Language × Document) :=
  events.filterMap Event.target?

def indexed (events : List Event) : List (Language × Document) :=
  events.filterMap Event.indexed?

theorem offered_cons (e : Event) (events : List Event) :
    offered (e :: events) = e.target?.toList ++ offered events :=
  filterMap_cons_eq_append _ e events

theorem indexed_cons (e : Event) (events : List Event) :
    indexed (e :: events) = e.indexed?.toList ++ indexed events :=
  filterMap_cons_eq_append _ e events

def reported (a : Crew) : Nat :=
  (a.indexers.map fun x => x.report.indexed).sum

def pending (a : Crew) : List (Language × Document) :=
  a.indexers.flatMap fun x => targets x.detect x.unhandled

def Uncancelled (a : Crew) : Prop :=
  ∀ x ∈ a.indexers, ¬x.report.cancelled

structure Moves (e : Event) (x y : Indexer) : Prop where
  counted_eq : ∀ o, y.report.counted o =
    x.report.counted o + if e.outcome? = some o then 1 else 0
  cancelled : x.report.cancelled → y.report.cancelled
  targets_eq : ¬y.report.cancelled →
    targets x.detect x.unhandled = e.target?.toList ++ targets y.detect y.unhandled

theorem Moves.of_looks {x x' : Indexer} (h : x.Looks x') (i : Nat) : Moves (.looked i) x x' := by
  cases h with
  | last hp =>
    refine ⟨fun o => by cases o <;> rfl, id, fun _ => ?_⟩
    rw [Indexer.unhandled, hp]
    rfl
  | cancelled hp hf =>
    exact ⟨fun o => by cases o <;> rfl, fun _ => rfl, fun hn => absurd rfl hn⟩
  | next hp hf =>
    refine ⟨fun o => by cases o <;> rfl, id, fun _ => ?_⟩
    rw [Indexer.unhandled, hp]
    rfl

theorem Moves.of_holding {x : Indexer} {e : Entry} {es : List Entry}
    (hp : x.phase = .holding e es) (c : Catalog) (i : Nat) :
    Moves (.handled i (target x.detect e) (outcome x.detect c e)) x
      { x with report := x.report.count (outcome x.detect c e), phase := .looking es } := by
  refine ⟨fun o => ?_, fun hc => ?_, fun _ => ?_⟩
  · rw [counted_count]
    simp [Event.outcome?]
  · rwa [cancelled_count]
  · change targets x.detect x.unhandled = (target x.detect e).toList ++ targets x.detect es
    rw [Indexer.unhandled, hp]
    exact filterMap_cons_eq_append _ e es

variable {a b : Crew} {e : Event} {events : List Event} {l : Language}

namespace Step

theorem exists_moves (h : Step a e b) : ∃ xs x y ys, a.indexers = xs ++ x :: ys ∧
    b.indexers = xs ++ y :: ys ∧ e.indexer = xs.length ∧ Moves e x y := by
  cases h with
  | cancel xs ys x hx => exact ⟨xs, x, _, ys, hx, rfl, rfl, fun _ => rfl, id, fun _ => rfl⟩
  | look xs ys x hx h => exact ⟨xs, x, _, ys, hx, rfl, rfl, .of_looks h _⟩
  | handle xs ys x hx hp h =>
    rw [step_eq] at h
    obtain ⟨rfl, rfl⟩ := Prod.mk.inj h
    exact ⟨xs, x, _, ys, hx, rfl, rfl, .of_holding hp a.catalog _⟩

theorem counted_eq (h : Step a e b) {i : Nat} {x : Indexer} (hx : a.indexers[i]? = some x) :
    ∃ y, b.indexers[i]? = some y ∧
      ∀ o, y.report.counted o = x.report.counted o + if e.counts i o then 1 else 0 := by
  obtain ⟨xs, z, y, ys, ha, hb, hi, hm⟩ := h.exists_moves
  by_cases hn : e.indexer = i
  · have hz : z = x := by simpa [ha, ← hn, hi] using hx
    refine ⟨y, by simp [hb, ← hn, hi], fun o => ?_⟩
    have ho := hm.counted_eq o
    rw [hz] at ho
    simp [Event.counts, hn, ho]
  · have hset : b.indexers = a.indexers.set xs.length y := by simp [ha, hb]
    refine ⟨x, ?_, fun o => ?_⟩
    · rwa [hset, ← hi, List.getElem?_set_ne hn]
    · simp [Event.counts, hn]

theorem length_eq (h : Step a e b) : b.indexers.length = a.indexers.length := by
  obtain ⟨xs, x, y, ys, ha, hb, _⟩ := h.exists_moves
  simp [ha, hb]

theorem reported_eq (h : Step a e b) :
    b.reported = a.reported + if e.outcome? = some .indexed then 1 else 0 := by
  obtain ⟨xs, x, y, ys, ha, hb, _, hm⟩ := h.exists_moves
  have ho : y.report.indexed = _ := hm.counted_eq .indexed
  rw [reported, reported, ha, hb]
  simp only [List.map_append, List.map_cons, List.sum_append, List.sum_cons, ho, Report.counted]
  omega

theorem uncancelled (h : Step a e b) (hb : b.Uncancelled) : a.Uncancelled := by
  obtain ⟨xs, x, y, ys, ha, hi, _, hm⟩ := h.exists_moves
  intro z hz
  rw [ha, List.mem_append, List.mem_cons] at hz
  rcases hz with hz | rfl | hz
  · exact hb z (by simp [hi, hz])
  · exact fun hc => hb y (by simp [hi]) (hm.cancelled hc)
  · exact hb z (by simp [hi, hz])

/-- What is offered is no longer pending, and nothing else gets lost. -/
theorem pending_perm (h : Step a e b) (hb : b.Uncancelled) :
    a.pending.Perm (e.target?.toList ++ b.pending) := by
  obtain ⟨xs, x, y, ys, ha, hi, _, hm⟩ := h.exists_moves
  have ht := hm.targets_eq (hb y (by simp [hi]))
  rw [pending, pending, ha, hi, List.flatMap_append, List.flatMap_append, List.flatMap_cons,
    List.flatMap_cons, ht, List.append_assoc]
  exact List.perm_append_comm_assoc _ _ _

theorem catalog_eq (h : Step a e b) : b.catalog = a.catalog.putAll e.target?.toList := by
  cases h with
  | cancel | look => rfl
  | @handle xs ys x e es report c hx hp h =>
    rw [step_eq] at h
    obtain ⟨rfl, rfl⟩ := Prod.mk.inj h
    exact handle_eq_putAll x.detect a.catalog e

theorem indexed?_eq (h : Step a e b) : e.indexed? =
    e.target?.filter fun t => (a.catalog.index t.1).accepts t.2.path := by
  cases h with
  | cancel | look => rfl
  | @handle xs ys x e es report c hx hp h =>
    rw [Event.indexed?]
    change (if some (outcome x.detect a.catalog e) = some .indexed then target x.detect e else none) =
      (target x.detect e).filter _
    cases ht : target x.detect e with
    | none => simp
    | some t => simp [outcome_eq_indexed_iff_accepts ht, Option.filter_some]

theorem documents_eq (h : Step a e b) : b.catalog.documents =
    a.catalog.documents + if e.outcome? = some .indexed then 1 else 0 := by
  cases h with
  | cancel | look => rfl
  | @handle xs ys x e es report c hx hp h =>
    rw [step_eq] at h
    obtain ⟨rfl, rfl⟩ := Prod.mk.inj h
    have hd := documents_handle x.detect a.catalog e
    simpa [Event.outcome?] using hd

end Step

namespace Run

theorem catalog_eq (h : Run a events b) : b.catalog = a.catalog.putAll (offered events) := by
  induction h with
  | nil a => rfl
  | @cons a m b e events h _ ih =>
    rw [ih, h.catalog_eq, offered_cons, Catalog.putAll_append]

/-- What is counted as indexed in a language is what its index takes of what is offered. -/
theorem documentsFor_indexed (h : Run a events b) (l : Language) :
    Catalog.documentsFor l (indexed events) =
      ((a.catalog.index l).addTexts (Catalog.documentsFor l (offered events))).2 := by
  induction h with
  | nil a => rfl
  | @cons a m b e events h _ ih =>
    have hm := h.catalog_eq
    have hi := h.indexed?_eq
    rw [indexed_cons, offered_cons]
    cases ht : e.target? with
    | none =>
      rw [ht] at hm hi
      rw [hi]
      rwa [hm] at ih
    | some t =>
      rw [ht, Option.filter_some] at hi
      have hm : m.catalog = a.catalog.put t := by rwa [ht] at hm
      rw [hm] at ih
      change _ = ((a.catalog.index l).addTexts (Catalog.documentsFor l (t :: offered events))).2
      by_cases hl : t.1 = l
      · subst hl
        rw [Catalog.index_put_self] at ih
        rw [Catalog.documentsFor_cons_self]
        by_cases ha : (a.catalog.index t.1).accepts t.2.path
        · rw [hi, if_pos ha, Index.addTexts_cons_of_accepts _ ha, ← ih]
          exact Catalog.documentsFor_cons_self t _
        · rw [Index.addText_of_not_accepts ha] at ih
          rw [hi, if_neg ha, Index.addTexts_cons_of_not_accepts _ ha]
          exact ih
      · rw [Catalog.index_put_of_ne _ hl] at ih
        rw [Catalog.documentsFor_cons_of_ne _ hl, ← ih, hi]
        split
        · exact Catalog.documentsFor_cons_of_ne _ hl
        · rfl

theorem counted_eq (h : Run a events b) {i : Nat} {x : Indexer} (hx : a.indexers[i]? = some x) :
    ∃ y, b.indexers[i]? = some y ∧
      ∀ o, y.report.counted o = x.report.counted o + events.countP (Event.counts i o) := by
  induction h generalizing x with
  | nil a => exact ⟨x, hx, fun _ => rfl⟩
  | cons h _ ih =>
    obtain ⟨z, hz, hc⟩ := h.counted_eq hx
    obtain ⟨y, hy, hc'⟩ := ih hz
    refine ⟨y, hy, fun o => ?_⟩
    rw [hc', hc, List.countP_cons]
    omega

theorem length_eq (h : Run a events b) : b.indexers.length = a.indexers.length := by
  induction h with
  | nil a => rfl
  | cons h _ ih => rw [ih, h.length_eq]

theorem documents_add_reported (h : Run a events b) :
    b.catalog.documents + a.reported = a.catalog.documents + b.reported := by
  induction h with
  | nil a => rfl
  | cons h _ ih =>
    have hd := h.documents_eq
    have hr := h.reported_eq
    omega

theorem documents_le (h : Run a events b) :
    b.catalog.documents ≤ a.catalog.documents + events.length := by
  induction h with
  | nil a => exact Nat.le_refl _
  | @cons a m b e events h _ ih =>
    have hd := h.documents_eq
    have hm : m.catalog.documents ≤ a.catalog.documents + 1 := by
      rw [hd]
      split <;> omega
    rw [List.length_cons]
    omega

theorem uncancelled (h : Run a events b) (hb : b.Uncancelled) : a.Uncancelled := by
  induction h with
  | nil a => exact hb
  | cons h _ ih => exact h.uncancelled (ih hb)

theorem pending_perm (h : Run a events b) (hb : b.Uncancelled) :
    a.pending.Perm (offered events ++ b.pending) := by
  induction h with
  | nil a => exact .refl _
  | @cons a m b e events h hr ih =>
    have hs := h.pending_perm (hr.uncancelled hb)
    have ht := hs.trans ((ih hb).append_left e.target?.toList)
    rwa [offered_cons, List.append_assoc]

end Run

end Crew

end Retrieval.Batch
