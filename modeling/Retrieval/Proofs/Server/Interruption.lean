import Retrieval.Proofs.Server.Exclusion

namespace Retrieval.Server

def cancelledAt (k i : Nat) : Bool :=
  decide (k ≤ i)

namespace Worker

variable {w w' : Worker} {f : Flags} {c c' : Catalog} {n : Nat} {p : Batch.Report × Catalog}

/-- What a batch that has looked at its flag `n` times, or once more for the entry in hand, comes to
if it is cancelled before the `k`-th entry. -/
def outcome (k n : Nat) (c : Catalog) (w : Worker) : Batch.Report × Catalog :=
  match w.phase with
  | .looking es => Batch.runFrom (cancelledAt k) w.detect n w.report (c.on w.files) es
  | .holding e es =>
    let q := Batch.step w.detect w.report (c.on w.files) e
    Batch.runFrom (cancelledAt k) w.detect (n + 1) q.1 q.2 es
  | .ended => (w.report, c.on w.files)

def least (n : Nat) (w : Worker) : Nat :=
  match w.phase with
  | .holding _ _ => n + 1
  | _ => n

/-- A batch may come to something, if it is cancelled at the right time. -/
def MayEnd (n : Nat) (c : Catalog) (p : Batch.Report × Catalog) (w : Worker) : Prop :=
  ∃ k, w.least n ≤ k ∧ w.outcome k n c = p

theorem mayEnd_of_ended (hp : w.phase = .ended) : w.MayEnd n c (w.report, c.on w.files) :=
  ⟨w.least n, Nat.le_refl _, by rw [outcome, hp]⟩

theorem Looks.mayEnd (h : w.Looks f w') (hw : w'.MayEnd n c p) : w.MayEnd n c p := by
  obtain ⟨k, hk, rfl⟩ := hw
  cases h with
  | last hp =>
    refine ⟨k, ?_, ?_⟩
    · rwa [least, hp]
    · rw [outcome, hp]
      rfl
  | cancelled hp _ =>
    refine ⟨n, ?_, ?_⟩
    · rw [least, hp]
    · have hc : cancelledAt n n := decide_eq_true (Nat.le_refl n)
      rw [outcome, hp]
      exact if_pos hc
  | next hp _ =>
    have hk : n + 1 ≤ k := hk
    refine ⟨k, ?_, ?_⟩
    · rw [least, hp]
      exact Nat.le_of_succ_le hk
    · have hc : ¬cancelledAt k n := by simpa [cancelledAt] using Nat.lt_of_succ_le hk
      rw [outcome, hp]
      exact if_neg hc

theorem mayEnd_of_holding {e : Batch.Entry} {es : List Batch.Entry} {report : Batch.Report}
    (hp : w.phase = .holding e es)
    (h : Batch.step w.detect w.report (c.on w.files) e = (report, c'))
    (hw : { w with report := report, phase := .looking es }.MayEnd (n + 1) c' p) :
    w.MayEnd n c p := by
  obtain ⟨k, hk, rfl⟩ := hw
  refine ⟨k, ?_, ?_⟩
  · rw [least, hp]
    exact hk
  · have hf := Batch.files_step w.detect (c.on w.files) w.report e
    rw [h] at hf
    have hc : c'.on w.files = c' := Catalog.on_of_files_eq hf
    rw [outcome, outcome, hp]
    simp only [h, hc]

end Worker

namespace Activity

variable {a b c : Activity} {events : List Event} {us vs : List Worker} {w w' : Worker}
variable {report : Batch.Report}

theorem Step.phase_eq_ended {flag : Nat} (h : Step a (.finished flag report) b) :
    ∃ us w vs, a.workers = us ++ w :: vs ∧ w.phase = .ended ∧ w.report = report := by
  cases h with
  | finish us vs w hw hp => exact ⟨us, w, vs, hw, hp, rfl⟩

theorem Sound.eq_of_workers_eq (hs : Sound a) (hw : a.workers = [w])
    (hw' : a.workers = us ++ w' :: vs) : us = [] ∧ vs = [] ∧ w' = w := by
  obtain ⟨rfl, rfl, _⟩ := hs.alone hw'
  exact ⟨rfl, rfl, List.singleton_inj.1 (hw'.symm.trans hw)⟩

theorem Sound.mayEnd (hs : Sound a) (h : Run a events b) (hw : a.workers = [w])
    (hn : ∀ r, .finished w.flag r ∉ events) (hb : Step b (.finished w.flag report) c) (n : Nat) :
    w.MayEnd n a.server.catalog (report, c.server.catalog.on w.files) := by
  induction h generalizing w n with
  | nil a =>
    have hc := hb.catalog_eq (by simp)
    obtain ⟨us, w', vs, hw', hp, rfl⟩ := hb.phase_eq_ended
    obtain ⟨_, _, rfl⟩ := hs.eq_of_workers_eq hw hw'
    rw [hc]
    exact Worker.mayEnd_of_ended hp
  | @cons a m b e events h hr ih =>
    have hm := hs.step h
    have hn' : ∀ r, .finished w.flag r ∉ events := fun r hm => hn r (List.mem_cons_of_mem _ hm)
    cases h with
    | refuseBatch | prepare | refuseReady | refuseCancel | abandon => exact ih hm hw hn' hb n
    | start _ _ _ _ h =>
      have hr := (Flags.start?_eq_some_iff.1 h).1
      rw [hs.workers_eq_nil hr] at hw
      cases hw
    | cancel h =>
      obtain ⟨_, _, rfl⟩ := cancelBatch_eq_ok_iff.1 h
      exact ih hm hw hn' hb n
    | look us vs w₁ hw₁ h =>
      obtain ⟨rfl, rfl, rfl⟩ := hs.eq_of_workers_eq hw hw₁
      have hf := h.flag_eq
      rw [← h.files_eq]
      exact h.mayEnd (ih hm rfl (hf ▸ hn') (hf ▸ hb) n)
    | handle us vs w₁ hw₁ hp h =>
      obtain ⟨rfl, rfl, rfl⟩ := hs.eq_of_workers_eq hw hw₁
      exact Worker.mayEnd_of_holding hp h (ih hm rfl hn' hb (n + 1))
    | finish us vs w₁ hw₁ hp =>
      obtain ⟨rfl, rfl, rfl⟩ := hs.eq_of_workers_eq hw hw₁
      exact absurd List.mem_cons_self (hn w₁.report)

theorem Step.ready_mem {flag : Nat} (h : Step a (.started flag) b) : ∃ detect files es,
    .ready detect es ∈ a.clients ∧ ⟨flag, detect, files, .none, .looking es⟩ ∈ b.workers ∧
      b.server.catalog = a.server.catalog := by
  cases h with
  | @start xs ys files detect es flag flags hc h =>
    exact ⟨detect, files, es, by simp [hc], List.mem_cons_self, rfl⟩

/-- Whatever else happens from its start to its end, a batch does what it would do on its own if it
were cancelled at some entry, or not at all if no cancel finds it. -/
theorem Reachable.batch_eq_run {d : Activity} {flag : Nat} (h : Reachable a)
    (hb : Step a (.started flag) b) (hc : Run b events c)
    (hn : ∀ r, .finished flag r ∉ events) (hd : Step c (.finished flag report) d) :
    ∃ detect files es, .ready detect es ∈ a.clients ∧
      (∃ k, Batch.run (cancelledAt k) detect (a.server.catalog.on files) es =
        (report, d.server.catalog.on files)) ∧
      (.cancelled true ∉ events → Batch.runAll detect (a.server.catalog.on files) es =
        (report, d.server.catalog.on files)) := by
  have hs := h.sound.step hb
  obtain ⟨detect, files, es, hm, hw, hcat⟩ := hb.ready_mem
  obtain ⟨us, vs, hw⟩ := List.append_of_mem hw
  obtain ⟨rfl, rfl, _⟩ := hs.alone hw
  obtain ⟨k, _, hk⟩ := hs.mayEnd hc hw hn hd 0
  rw [hcat] at hk
  have hk : Batch.run (cancelledAt k) detect (a.server.catalog.on files) es =
      (report, d.server.catalog.on files) := hk
  refine ⟨detect, files, es, hm, ⟨k, hk⟩, fun hno => ?_⟩
  have hrun : Run b (events ++ [.finished flag report]) d := hc.append (.cons hd (.nil d))
  have hno' : .cancelled true ∉ events ++ [.finished flag report] := by simpa using hno
  have hr := (hs.run_uncancelled hrun hb.started.2 hno').2 report (by simp)
  have hr' : ¬(Batch.run (cancelledAt k) detect (a.server.catalog.on files) es).1.cancelled := by
    rwa [hk]
  rw [← hk]
  exact (Batch.runFrom_eq_of_not_cancelled detect _ hr').symm

end Activity

end Retrieval.Server
