import Retrieval.Proofs.Batch.Crew
import Retrieval.Proofs.Catalog.Reordered

namespace Retrieval.Batch.Crew

open Index (Document DocId)

def Event.indexes (l : Language) (path : String) (e : Event) : Bool :=
  e.indexed?.any fun t => t.1 == l && t.2.path == path

def Offers (events : List Event) (l : Language) (path : String) : Prop :=
  ∃ text, (l, ⟨text, path⟩) ∈ offered events

def Has (c : Catalog) (l : Language) (path : String) : Prop :=
  ∃ d, (c.index l).filePath d = .ok path

def Done (a : Crew) : Prop :=
  ∀ x ∈ a.indexers, x.phase = .ended ∧ ¬x.report.cancelled

/-- What has become of documents that several indexers have offered to a catalog. -/
structure Conserves (c : Catalog) (events : List Event) (b : Crew) : Prop where
  has_iff : ∀ l path, Has b.catalog l path ↔ Has c l path ∨ Offers events l path
  filePath_inj : ∀ l path d d', (b.catalog.index l).filePath d = .ok path →
    (b.catalog.index l).filePath d' = .ok path → d = d'
  /-- No document is counted if it was there before; else one indexer counts it once. -/
  countP_of_has : ∀ l path, Has c l path → events.countP (Event.indexes l path) = 0
  countP_of_offers : ∀ l path, Offers events l path → ¬Has c l path →
    events.countP (Event.indexes l path) = 1
  counted_eq : ∀ i x, b.indexers[i]? = some x →
    ∀ o, x.report.counted o = events.countP (Event.counts i o)
  documents_eq : b.catalog.documents = c.documents + b.reported

theorem countP_indexes (events : List Event) (l : Language) (path : String) :
    events.countP (Event.indexes l path) =
      ((Catalog.documentsFor l (indexed events)).map Document.path).count path := by
  induction events with
  | nil => rfl
  | cons e events ih =>
    rw [List.countP_cons, ih, indexed_cons, Event.indexes]
    cases e.indexed? with
    | none => simp
    | some t =>
      rw [Option.toList_some, List.singleton_append]
      by_cases hl : t.1 = l
      · subst hl
        rw [Catalog.documentsFor_cons_self, List.map_cons, List.count_cons]
        simp
      · rw [Catalog.documentsFor_cons_of_ne _ hl]
        simp [hl]

variable {a b : Crew} {events : List Event} {l : Language} {path : String} {docs : List Document}

section Language

variable (h : Run a events b) (hd : (a.catalog.index l).Comprises docs)
include h hd

theorem Run.comprises : (b.catalog.index l).Comprises
    (docs ++ Catalog.documentsFor l (indexed events)) := by
  have hc := hd.addTexts (Catalog.documentsFor l (offered events))
  rwa [h.documentsFor_indexed, h.catalog_eq, Catalog.index_putAll]

theorem Run.has_iff (hl : (b.catalog.index l).documentCount < DocId.last.toNat) :
    Has b.catalog l path ↔ Has a.catalog l path ∨ Offers events l path := by
  have hc := h.comprises hd
  rw [Has, Has, hd.exists_filePath_iff, hc.exists_filePath_iff, List.map_append, List.mem_append]
  rw [hc.documentCount_eq, h.documentsFor_indexed] at hl
  constructor
  · rintro (hm | hm)
    · exact .inl hm
    · obtain ⟨doc, hdoc, rfl⟩ := List.mem_map.1 hm
      rw [h.documentsFor_indexed] at hdoc
      have hs := (Index.snd_addTexts_sublist _ _).subset hdoc
      exact .inr ⟨doc.text, Catalog.mem_documentsFor_iff.1 hs⟩
  · rintro (hm | ⟨text, hm⟩)
    · exact .inl hm
    · have hm := hd.path_mem_of_mem hl (Catalog.mem_documentsFor_iff.2 hm)
      rwa [List.map_append, List.mem_append, ← h.documentsFor_indexed] at hm

theorem Run.count_path_le (path : String) : ((docs.map Document.path).count path) +
    events.countP (Event.indexes l path) ≤ 1 := by
  have hn := (h.comprises hd).nodup_paths
  rw [List.map_append] at hn
  rw [countP_indexes, ← List.count_append]
  exact List.nodup_iff_count_le_one.1 hn path

theorem Run.countP_of_has (hp : Has a.catalog l path) :
    events.countP (Event.indexes l path) = 0 := by
  have hle := h.count_path_le hd path
  have hm := List.count_pos_iff.2 (hd.exists_filePath_iff.1 hp)
  omega

theorem Run.countP_of_offers (hl : (b.catalog.index l).documentCount < DocId.last.toNat)
    (ho : Offers events l path) (hn : ¬Has a.catalog l path) :
    events.countP (Event.indexes l path) = 1 := by
  have hle := h.count_path_le hd path
  have hb := (h.has_iff hd hl).2 (.inr ho)
  rw [Has, (h.comprises hd).exists_filePath_iff, List.map_append, List.mem_append] at hb
  have hm := hb.resolve_left fun hm => hn (hd.exists_filePath_iff.2 hm)
  have hpos := List.count_pos_iff.2 hm
  rw [← countP_indexes] at hpos
  omega

end Language

variable {c : Catalog} {jobs : List (Detector × List Entry)}

theorem counted_start {i : Nat} (hi : i < (start c jobs).indexers.length) (o : Outcome) :
    (start c jobs).indexers[i].report.counted o = 0 := by
  simp only [start, List.getElem_map]
  cases o <;> rfl

theorem reported_start (c : Catalog) (jobs : List (Detector × List Entry)) :
    (start c jobs).reported = 0 := by
  induction jobs with
  | nil => rfl
  | cons job jobs ih =>
    rw [reported, start, List.map_cons, List.map_cons, List.sum_cons]
    rw [reported, start] at ih
    rw [ih]
    rfl

theorem pending_start (c : Catalog) (jobs : List (Detector × List Entry)) :
    (start c jobs).pending = jobs.flatMap fun job => targets job.1 job.2 :=
  List.flatMap_map ..

theorem Done.pending_eq_nil (hb : b.Done) : b.pending = [] := by
  rw [pending, List.flatMap_eq_nil_iff]
  intro x hx
  rw [Indexer.unhandled, (hb x hx).1]
  rfl

theorem exists_run_done_append (c : Catalog) {xs : List Indexer} (hx : Done ⟨c, xs⟩)
    (jobs : List (Detector × List Entry)) :
    ∃ events b, Run ⟨c, xs ++ (start c jobs).indexers⟩ events b ∧ b.Done := by
  induction jobs generalizing c xs with
  | nil => exact ⟨[], _, .nil _, by simpa [Done, start] using hx⟩
  | cons job jobs ih =>
    let x : Indexer := .start job.1 job.2
    let y := { x with report := x.report.countAll (outcomes job.1 c job.2), phase := .ended }
    obtain ⟨events, hr⟩ := exists_run_handleAll c xs (start c jobs).indexers x job.2 rfl
      Bool.false_ne_true
    have hy : Done ⟨handleAll job.1 c job.2, xs ++ [y]⟩ := by
      intro z hz
      rcases List.mem_append.1 hz with hz | hz
      · exact hx z hz
      · have hc : y.report.cancelled = false := cancelled_countAll _ _
        obtain rfl : z = y := List.mem_singleton.1 hz
        exact ⟨rfl, Bool.eq_false_iff.1 hc⟩
    obtain ⟨events', b, hr', hb⟩ := ih (handleAll job.1 c job.2) hy
    rw [List.append_assoc] at hr'
    exact ⟨_, b, hr.append hr', hb⟩

/-- Nothing keeps a crew from its end: the indexers may come one after the other. -/
theorem exists_run_done (c : Catalog) (jobs : List (Detector × List Entry)) :
    ∃ events b, Run (start c jobs) events b ∧ b.Done :=
  exists_run_done_append c (fun _ hx => absurd hx List.not_mem_nil) jobs

theorem Run.offered_perm (h : Run (start c jobs) events b) (hb : b.Done) :
    (jobs.flatMap fun job => targets job.1 job.2).Perm (offered events) := by
  have hp := h.pending_perm fun x hx => (hb x hx).2
  rwa [hb.pending_eq_nil, List.append_nil, pending_start] at hp

theorem Run.conserves (h : Run (start c jobs) events b) (hc : c.Built)
    (hl : ∀ l, (b.catalog.index l).documentCount < DocId.last.toNat) : Conserves c events b := by
  choose docs hd using hc.exists_comprises
  constructor
  case has_iff => exact fun l _ => h.has_iff (hd l) (hl l)
  case filePath_inj => exact fun l _ _ _ => (h.comprises (hd l)).filePath_inj
  case countP_of_has => exact fun l _ => h.countP_of_has (hd l)
  case countP_of_offers => exact fun l _ => h.countP_of_offers (hd l) (hl l)
  case counted_eq =>
    intro i x hx o
    obtain ⟨hi, _⟩ := List.getElem?_eq_some_iff.1 hx
    rw [h.length_eq] at hi
    obtain ⟨y, hy, ho⟩ := h.counted_eq (List.getElem?_eq_getElem hi)
    obtain rfl : x = y := Option.some.inj (hx.symm.trans hy)
    rw [ho, counted_start, Nat.zero_add]
  case documents_eq =>
    have hd := h.documents_add_reported
    rwa [reported_start, Nat.add_zero] at hd

/-- Batches on one catalog neither lose a document nor index it twice, however their steps come, and
unless they are cancelled they leave the same whichever comes first. -/
theorem Run.conserves_and_reordered {c : Catalog} {jobs : List (Detector × List Entry)}
    {events events' : List Event} {b b' : Crew} (hc : c.Built) (h : Run (start c jobs) events b)
    (h' : Run (start c jobs) events' b')
    (hl : ∀ l, (b.catalog.index l).documentCount < DocId.last.toNat) :
    Conserves c events b ∧ (Catalog.OneText (jobs.flatMap fun job => targets job.1 job.2) →
      b.Done → b'.Done → b.catalog.Reordered b'.catalog) := by
  refine ⟨h.conserves hc hl, fun ht hb hb' => ?_⟩
  have hp := h.offered_perm hb
  have hp' := h'.offered_perm hb'
  have ht : Catalog.OneText (offered events) := fun t hm t' hm' =>
    ht t (hp.mem_iff.2 hm) t' (hp.mem_iff.2 hm')
  have he : b.catalog = c.putAll (offered events) := h.catalog_eq
  have he' : b'.catalog = c.putAll (offered events') := h'.catalog_eq
  rw [he] at hl
  rw [he, he']
  exact hc.reordered_putAll (hp.symm.trans hp') ht hl

def cats : Entry :=
  .article "a" ⟨"Cats", "The cat sleeps", none, none, none, none⟩

def dogs : Entry :=
  .article "b" ⟨"Dogs", "A dog barks", none, none, none, none⟩

def twoJobs : List (Detector × List Entry) :=
  [(.fixed .english, [cats]), (.fixed .english, [cats, dogs])]

theorem exists_run_twoJobs (c : Catalog) : ∃ events b, Run (start c twoJobs) events b ∧ b.Done ∧
    events.length = 8 := by
  let d := Detector.fixed .english
  let c₁ := Batch.handle d c cats
  let c₂ := Batch.handle d c₁ cats
  let c₃ := Batch.handle d c₂ dogs
  let r := Report.none.count (outcome d c₁ cats)
  let r' := (Report.none.count (outcome d c cats)).count (outcome d c₂ dogs)
  let events : List Event := [.looked 0, .looked 1,
    .handled 1 (target d cats) (outcome d c cats), .handled 0 (target d cats) (outcome d c₁ cats),
    .looked 0, .looked 1, .handled 1 (target d dogs) (outcome d c₂ dogs), .looked 1]
  have hf : ¬false = true := Bool.false_ne_true
  have hr : Run (start c twoJobs) events ⟨c₃, [⟨d, false, r, .ended⟩, ⟨d, false, r', .ended⟩]⟩ := by
    let x : Indexer := ⟨d, false, .none, .holding cats []⟩
    let y : Indexer := ⟨d, false, .none, .holding cats [dogs]⟩
    let y' : Indexer := ⟨d, false, .count .none (outcome d c cats), .holding dogs []⟩
    refine .cons (.look [] [_] _ rfl (.next rfl hf)) ?_
    refine .cons (.look [_] [] _ rfl (.next rfl hf)) ?_
    refine .cons (.handle [x] [] y rfl rfl (step_eq d c .none cats)) ?_
    refine .cons (.handle [] [_] x rfl rfl (step_eq d c₁ .none cats)) ?_
    refine .cons (.look [] [_] _ rfl (.last rfl)) ?_
    refine .cons (.look [_] [] _ rfl (.next rfl hf)) ?_
    refine .cons (.handle [_] [] y' rfl rfl (step_eq d c₂ y'.report dogs)) ?_
    exact .cons (.look [_] [] _ rfl (.last rfl)) (.nil _)
  have hd : r.cancelled = false ∧ r'.cancelled = false := by
    simp only [r, r', cancelled_count]
    exact ⟨rfl, rfl⟩
  exact ⟨events, _, hr, by simp [Done, hd], rfl⟩

theorem conserves_of_twoJobs : let c := Catalog.empty .default (.empty [])
    ∃ events b events' b', c.Built ∧ Run (start c twoJobs) events b ∧
      Run (start c twoJobs) events' b' ∧
      (∀ l, (b.catalog.index l).documentCount < DocId.last.toNat) ∧
      Catalog.OneText (twoJobs.flatMap fun job => targets job.1 job.2) ∧ b.Done ∧ b'.Done ∧
      Conserves c events b ∧ b.catalog.Reordered b'.catalog := by
  intro c
  obtain ⟨events, b, h, hb, hlen⟩ := exists_run_twoJobs c
  obtain ⟨events', b', h', hb'⟩ := exists_run_done c twoJobs
  have hc : c.Built := .empty fun l => by cases l <;> rfl
  have hl : ∀ l, (b.catalog.index l).documentCount < DocId.last.toNat := by
    intro l
    have hle := h.documents_le
    have hz : (start c twoJobs).catalog.documents = 0 := rfl
    have hi := b.catalog.documentCount_index_le l
    have hm : DocId.last.toNat = 4294967295 := rfl
    omega
  have ht : Catalog.OneText (twoJobs.flatMap fun job => targets job.1 job.2) := by
    unfold Catalog.OneText
    decide
  obtain ⟨hk, hr⟩ := Run.conserves_and_reordered hc h h' hl
  exact ⟨events, b, events', b', hc, h, h', hl, ht, hb, hb', hk, hr ht hb hb'⟩

end Retrieval.Batch.Crew
