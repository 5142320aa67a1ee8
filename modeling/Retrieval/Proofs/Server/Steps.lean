import Retrieval.Proofs.Server.Activity
import Retrieval.Proofs.Server.Flags

namespace Retrieval.Server

variable {f : Flags} {flag : Nat} {us vs : List Worker} {w w' : Worker}

theorem Worker.Looks.flag_eq (h : w.Looks f w') : w'.flag = w.flag := by
  cases h <;> rfl

theorem Worker.Looks.files_eq (h : w.Looks f w') : w'.files = w.files := by
  cases h <;> rfl

theorem Worker.Looks.holds_eq_false (h : w.Looks f w') (hf : f.isRaised flag) :
    w'.holds flag = false := by
  cases h with
  | last hp => exact Bool.and_false _
  | cancelled hp hr => exact Bool.and_false _
  | next hp hr =>
    have hn : w.flag ≠ flag := fun he => hr (he ▸ hf)
    rw [Worker.holds, beq_eq_false_iff_ne.2 hn, Bool.false_and]

theorem Worker.Looks.exists_of_looking {es : List Batch.Entry} (hp : w.phase = .looking es)
    (f : Flags) : ∃ w', w.Looks f w' := by
  cases es with
  | nil => exact ⟨_, .last hp⟩
  | cons e es =>
    by_cases hf : f.isRaised w.flag
    · exact ⟨_, .cancelled hp hf⟩
    · exact ⟨_, .next hp hf⟩

/-- The flags after an event: only a start, a cancel and the end of a batch have to do with them. -/
def Event.flags (f : Flags) : Event → Flags
  | .started _ => f.issue
  | .cancelled _ => f.cancel.2
  | .finished _ _ => f.finish
  | .prepared | .refused _ | .looked _ | .handled _ | .abandoned => f

namespace Activity

variable {a b : Activity} {e : Event} {events : List Event} {r : Refusal}

theorem Step.flags_eq (h : Step a e b) : b.server.flags = e.flags a.server.flags := by
  cases h with
  | start _ _ _ _ h =>
    obtain ⟨_, rfl, rfl⟩ := Flags.start?_eq_some_iff.1 h
    rfl
  | cancel h =>
    obtain ⟨_, rfl, rfl⟩ := cancelBatch_eq_ok_iff.1 h
    rfl
  | refuseBatch | prepare | refuseReady | refuseCancel | look | handle | finish | abandon => rfl

theorem Step.answer_eq {answer : Bool} (h : Step a (.cancelled answer) b) :
    answer = a.server.flags.cancel.1 := by
  cases h with
  | cancel h => exact (cancelBatch_eq_ok_iff.1 h).2.1

theorem Step.isRaised (h : Step a e b) (hf : a.server.flags.isRaised flag) :
    b.server.flags.isRaised flag := by
  rw [h.flags_eq]
  cases e with
  | cancelled answer => exact Flags.isRaised_cancel hf
  | started | finished | prepared | refused | looked | handled | abandoned => exact hf

theorem Step.catalog_eq (h : Step a e b) (he : ∀ flag, e ≠ .handled flag) :
    b.server.catalog = a.server.catalog := by
  cases h with
  | cancel h =>
    obtain ⟨_, _, rfl⟩ := cancelBatch_eq_ok_iff.1 h
    rfl
  | handle us vs w => exact absurd rfl (he w.flag)
  | refuseBatch | prepare | refuseReady | refuseCancel | start | look | finish | abandon => rfl

theorem Step.started_eq (h : Step a (.started flag) b) :
    a.server.flags.running = none ∧ flag = a.server.flags.fresh := by
  cases h with
  | start _ _ _ _ h =>
    obtain ⟨hr, hf, _⟩ := Flags.start?_eq_some_iff.1 h
    exact ⟨hr, hf⟩

theorem Step.started (h : Step a (.started flag) b) :
    b.server.flags.running = some flag ∧ ¬b.server.flags.isRaised flag := by
  rw [h.flags_eq, h.started_eq.2]
  exact ⟨rfl, a.server.flags.not_isRaised_fresh⟩

theorem Step.refused (h : Step a (.refused r) b) : b.server = a.server ∧ b.workers = a.workers := by
  cases h with
  | refuseBatch | refuseReady | refuseCancel => exact ⟨rfl, rfl⟩

theorem Step.refused_batchRunning (h : Step a (.refused .batchRunning) b) :
    a.server.flags.running ≠ none := by
  cases h with
  | refuseBatch h => exact absurd h prepare_ne_batchRunning
  | refuseReady _ _ _ h => exact Flags.start?_eq_none_iff.1 h
  | refuseCancel h => exact absurd h cancelBatch_ne_batchRunning

theorem Step.cancelled_true (h : Step a (.cancelled true) b) : ∃ flag,
    ∃ hr : a.server.flags.running = some flag, b.server.flags = a.server.flags.raise flag hr := by
  have hs : a.server.flags.running.isSome := by rw [← Flags.cancel_fst, ← h.answer_eq]
  obtain ⟨flag, hr⟩ := Option.isSome_iff_exists.1 hs
  exact ⟨flag, hr, by rw [h.flags_eq, Event.flags, Flags.cancel_of_running hr]⟩

theorem Step.workers_of_cancelled {answer : Bool} (h : Step a (.cancelled answer) b) :
    b.workers = a.workers := by
  cases h with
  | cancel => rfl

theorem Step.eq_of_cancelled_false (h : Step a (.cancelled false) b) : b = a := by
  have hf : a.server.flags.cancel.1 ≠ true := by
    rw [← h.answer_eq]
    exact Bool.false_ne_true
  cases h with
  | cancel h =>
    obtain ⟨_, _, rfl⟩ := cancelBatch_eq_ok_iff.1 h
    rw [Flags.cancel_eq_self hf]

theorem exists_step_of_mem (hw : w ∈ a.workers) : ∃ b, Step a (.looked w.flag) b ∨
    Step a (.handled w.flag) b ∨ Step a (.finished w.flag w.report) b := by
  obtain ⟨us, vs, hw⟩ := List.append_of_mem hw
  cases hp : w.phase with
  | looking es =>
    obtain ⟨w', h⟩ := Worker.Looks.exists_of_looking hp a.server.flags
    exact ⟨_, .inl (.look us vs w hw h)⟩
  | holding e es => exact ⟨_, .inr (.inl (.handle us vs w hw hp rfl))⟩
  | ended => exact ⟨_, .inr (.inr (.finish us vs w hw hp))⟩

theorem Step.not_isRaised (h : Step a e b) (he : e ≠ .cancelled true)
    (hf : ¬a.server.flags.isRaised flag) : ¬b.server.flags.isRaised flag := by
  rw [h.flags_eq]
  cases e with
  | cancelled answer =>
    have ha : a.server.flags.cancel.1 ≠ true := fun ht => he (by rw [h.answer_eq, ht])
    rwa [Event.flags, Flags.cancel_eq_self ha]
  | started | finished | prepared | refused | looked | handled | abandoned => exact hf

/-- How many batches with a flag have an entry in hand, which they handle whatever happens. -/
def holding (a : Activity) (flag : Nat) : Nat :=
  a.workers.countP (Worker.holds flag)

/-- Once a flag is raised no entry is taken up, and each one that is handled has been in hand. -/
theorem Step.holding_le (h : Step a e b) (hf : a.server.flags.isRaised flag) :
    b.holding flag + (if e == .handled flag then 1 else 0) ≤ a.holding flag := by
  cases h with
  | refuseBatch | prepare | refuseReady | refuseCancel | abandon | cancel => exact Nat.le_refl _
  | start => simp [holding, Worker.holds]
  | look us vs w hw h =>
    have hl := h.holds_eq_false hf
    simp [holding, hw, List.countP_cons, hl]
  | handle us vs w hw hp h =>
    simp [holding, hw, List.countP_cons, Worker.holds, hp, Nat.add_assoc]
  | finish us vs w hw hp => simp [holding, hw, List.countP_cons]

theorem Run.count_handled_le (h : Run a events b) (hf : a.server.flags.isRaised flag) :
    events.count (.handled flag) ≤ a.holding flag := by
  induction h with
  | nil a => exact Nat.zero_le _
  | cons h _ ih =>
    rw [List.count_cons]
    exact Nat.le_trans (Nat.add_le_add_right (ih (h.isRaised hf)) _) (h.holding_le hf)

theorem Run.isRaised (h : Run a events b) (hf : a.server.flags.isRaised flag) :
    b.server.flags.isRaised flag := by
  induction h with
  | nil a => exact hf
  | cons h _ ih => exact ih (h.isRaised hf)

end Activity

end Retrieval.Server
