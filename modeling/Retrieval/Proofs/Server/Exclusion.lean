import Retrieval.Proofs.Batch.Outcome
import Retrieval.Proofs.Server.Steps
import Retrieval.Server.Handle

namespace Retrieval.Server.Activity

variable {flag : Nat} {us vs : List Worker} {w : Worker} {a b : Activity} {e : Event}
variable {events : List Event}

/-- The place of the running batch belongs to the batch that is under way, and a batch only says that
it was cancelled if its flag is raised. -/
structure Sound (a : Activity) : Prop where
  owned : a.workers.map Worker.flag = a.server.flags.running.toList
  cancelled : ∀ w ∈ a.workers, w.report.cancelled → a.server.flags.isRaised w.flag

theorem Sound.alone (hs : Sound a) (hw : a.workers = us ++ w :: vs) :
    us = [] ∧ vs = [] ∧ a.server.flags.running = some w.flag := by
  have ho := hs.owned
  rw [hw, List.map_append, List.map_cons] at ho
  cases hr : a.server.flags.running with
  | none =>
    rw [hr] at ho
    exact absurd ho (by simp)
  | some flag =>
    rw [hr] at ho
    rcases List.append_eq_singleton_iff.1 ho with ⟨hu, hv⟩ | ⟨_, hv⟩
    · obtain ⟨hf, hv⟩ := List.cons.inj hv
      exact ⟨List.map_eq_nil_iff.1 hu, List.map_eq_nil_iff.1 hv, by rw [hf]⟩
    · exact absurd hv (List.cons_ne_nil _ _)

theorem Sound.workers_eq_nil (hs : Sound a) (hr : a.server.flags.running = none) :
    a.workers = [] := by
  have ho := hs.owned
  rw [hr] at ho
  exact List.map_eq_nil_iff.1 ho

theorem Sound.running_eq_none (hs : Sound a) (hw : a.workers = []) :
    a.server.flags.running = none := by
  have ho := hs.owned
  rw [hw] at ho
  exact Option.toList_eq_nil_iff.1 ho.symm

theorem Sound.running_ne_none (hs : Sound a) (hw : a.workers ≠ []) :
    a.server.flags.running ≠ none :=
  mt hs.workers_eq_nil hw

theorem Sound.start?_eq_none (hs : Sound a) (hw : a.workers ≠ []) :
    a.server.flags.start? = none :=
  Flags.start?_eq_none_iff.2 (hs.running_ne_none hw)

theorem Sound.start?_eq_some (hs : Sound a) (hw : a.workers = []) :
    a.server.flags.start? = some (a.server.flags.fresh, a.server.flags.issue) :=
  Flags.start?_eq_some_iff.2 ⟨hs.running_eq_none hw, rfl, rfl⟩

theorem Sound.running_eq_some_iff (hs : Sound a) :
    a.server.flags.running = some flag ↔ ∃ w ∈ a.workers, w.flag = flag := by
  rw [← List.mem_map, hs.owned, Option.mem_toList]

theorem Sound.isSome_running (hs : Sound a) :
    a.server.flags.running.isSome = !a.workers.isEmpty := by
  cases hw : a.workers with
  | nil => rw [hs.running_eq_none hw, Option.isSome_none, List.isEmpty_nil, Bool.not_true]
  | cons w ws =>
    have hw' : a.workers = [] ++ w :: ws := hw
    obtain ⟨_, _, hr⟩ := hs.alone hw'
    rw [hr, Option.isSome_some, List.isEmpty_cons, Bool.not_false]

theorem Sound.workers_eq_singleton (hs : Sound a) (hr : a.server.flags.running = some flag) :
    ∃ w, a.workers = [w] ∧ w.flag = flag := by
  obtain ⟨w, hm, hf⟩ := hs.running_eq_some_iff.1 hr
  obtain ⟨us, vs, hw⟩ := List.append_of_mem hm
  obtain ⟨rfl, rfl, _⟩ := hs.alone hw
  exact ⟨w, hw, hf⟩

theorem Sound.length_workers_le_one (hs : Sound a) : a.workers.length ≤ 1 := by
  rw [← List.length_map Worker.flag, hs.owned]
  cases a.server.flags.running <;> simp

theorem Sound.step_owned (hs : Sound a) (h : Step a e b) :
    b.workers.map Worker.flag = b.server.flags.running.toList := by
  have ho := hs.owned
  have hf := h.flags_eq
  cases h with
  | refuseBatch | prepare | refuseReady | refuseCancel | abandon => exact ho
  | start _ _ _ _ h =>
    obtain ⟨hr, rfl, rfl⟩ := Flags.start?_eq_some_iff.1 h
    rw [hs.workers_eq_nil hr]
    rfl
  | cancel h => rw [hf, Event.flags, Flags.running_cancel, ho]
  | look us vs w hw h =>
    rw [hw] at ho
    rw [List.map_append, List.map_cons, h.flag_eq, ← List.map_cons, ← List.map_append, ho]
  | handle us vs w hw hp h =>
    rw [hw] at ho
    rw [← ho, List.map_append, List.map_append]
    rfl
  | finish us vs w hw hp =>
    obtain ⟨rfl, rfl, _⟩ := hs.alone hw
    rfl

theorem Sound.step_cancelled (hs : Sound a) (h : Step a e b) :
    ∀ w ∈ b.workers, w.report.cancelled → b.server.flags.isRaised w.flag := by
  intro w' hm hc
  have hold : ∀ w ∈ a.workers, w.report.cancelled → b.server.flags.isRaised w.flag :=
    fun w hm hc => h.isRaised (hs.cancelled w hm hc)
  cases h with
  | refuseBatch | prepare | refuseReady | refuseCancel | abandon | cancel => exact hold w' hm hc
  | start _ _ _ _ h =>
    rcases List.mem_cons.1 hm with rfl | hm
    · cases hc
    · exact hold w' hm hc
  | look us vs w hw h =>
    obtain ⟨rfl, rfl, _⟩ := hs.alone hw
    obtain rfl := List.mem_singleton.1 hm
    have hw : w ∈ a.workers := by simp [hw]
    cases h with
    | last hp => exact hold w hw hc
    | cancelled hp hf => exact hf
    | next hp hf => exact hold w hw hc
  | @handle us vs w e es report c hw hp h =>
    obtain ⟨rfl, rfl, _⟩ := hs.alone hw
    obtain rfl := List.mem_singleton.1 hm
    have hw : w ∈ a.workers := by simp [hw]
    have hr : report = w.report.count
        (Batch.outcome w.detect (a.server.catalog.on w.files) e) := by
      rw [Batch.step_eq] at h
      exact (Prod.mk.inj h).1.symm
    have hc : w.report.cancelled := by rwa [← Batch.cancelled_count, ← hr]
    exact hold w hw hc
  | finish us vs w hw hp =>
    obtain ⟨rfl, rfl, _⟩ := hs.alone hw
    cases hm

theorem Sound.step (hs : Sound a) (h : Step a e b) : Sound b :=
  ⟨hs.step_owned h, hs.step_cancelled h⟩

theorem Sound.run (hs : Sound a) (h : Run a events b) : Sound b := by
  induction h with
  | nil a => exact hs
  | cons h _ ih => exact ih (hs.step h)

theorem Reachable.sound (h : Reachable a) : Sound a := by
  obtain ⟨s, events, hr, h⟩ := h
  have hs : Sound ⟨s, [], []⟩ := ⟨by rw [hr]; rfl, fun _ h => nomatch h⟩
  exact hs.run h

theorem Sound.run_uncancelled (hs : Sound a) (h : Run a events b)
    (hf : ¬a.server.flags.isRaised flag) (hc : .cancelled true ∉ events) :
    ¬b.server.flags.isRaised flag ∧ ∀ report, .finished flag report ∈ events → ¬report.cancelled := by
  induction h with
  | nil a => exact ⟨hf, fun _ h => nomatch h⟩
  | @cons a b c e events h hr ih =>
    obtain ⟨he, hc⟩ := not_or.1 (mt List.mem_cons.2 hc)
    obtain ⟨hn, hi⟩ := ih (hs.step h) (h.not_isRaised (Ne.symm he) hf) hc
    refine ⟨hn, fun report hm => ?_⟩
    rcases List.mem_cons.1 hm with rfl | hm
    · cases h with
      | finish us vs w hw hp =>
        have hm : w ∈ a.workers := by simp [hw]
        exact fun hc => hf (hs.cancelled w hm hc)
    · exact hi report hm

theorem Sound.isRaised_of_cancelled (hs : Sound a) (h : Step a (.cancelled true) b)
    (hw : w ∈ a.workers) : b.server.flags.isRaised w.flag := by
  obtain ⟨flag, hr, hb⟩ := h.cancelled_true
  have hf : a.server.flags.running = some w.flag := hs.running_eq_some_iff.2 ⟨w, hw, rfl⟩
  rw [hb]
  exact (Flags.isRaised_raise hr).2 (.inl (Option.some.inj (hf.symm.trans hr)))

theorem Sound.count_handled_le_one (hs : Sound a) (h : Step a (.cancelled true) b)
    (hw : w ∈ a.workers) {c : Activity} (hr : Run b events c) :
    events.count (.handled w.flag) ≤ 1 :=
  calc
    events.count (.handled w.flag) ≤ b.holding w.flag :=
      hr.count_handled_le (hs.isRaised_of_cancelled h hw)
    _ ≤ b.workers.length := List.countP_le_length
    _ ≤ 1 := (hs.step h).length_workers_le_one

/-- One batch at a time, and a cancel hits no other. -/
structure OneBatch (a : Activity) : Prop where
  alone : a.workers.length ≤ 1
  running_eq_some_iff : ∀ flag,
    a.server.flags.running = some flag ↔ ∃ w ∈ a.workers, w.flag = flag
  started : ∀ flag b, Step a (.started flag) b →
    b.server.flags.running = some flag ∧ ¬b.server.flags.isRaised flag
  uncancelled : ∀ flag b events c, Step a (.started flag) b → Run b events c →
    .cancelled true ∉ events → ¬c.server.flags.isRaised flag ∧
      ∀ report, .finished flag report ∈ events → ¬report.cancelled
  /-- As long as a batch is under way a batch request is answered with a conflict. -/
  conflict : a.workers ≠ [] → ∀ files r p, a.server.prepare files r = .ok p →
    a.server.perform files r .indexBatch = (.refuse .batchRunning, a.server) ∧
      Refusal.batchRunning.status = 409
  refused_ready : a.workers ≠ [] → ∀ xs ys detect es, a.clients = xs ++ .ready detect es :: ys →
    Step a (.refused .batchRunning) { a with clients := xs ++ ys }
  not_started : a.workers ≠ [] → ∀ flag b, ¬Step a (.started flag) b
  refused : ∀ r b, Step a (.refused r) b → b.server = a.server ∧ b.workers = a.workers
  cancel_answered : ∀ r, a.server.authorize r = .ok () →
    ∃ b, Step a (.cancelled !a.workers.isEmpty) b
  cancelled : ∀ b, Step a (.cancelled true) b → ∃ w, a.workers = [w] ∧ b.workers = [w] ∧
    b.server.flags.running = some w.flag ∧ b.server.catalog = a.server.catalog ∧
      ∀ flag, b.server.flags.isRaised flag ↔ flag = w.flag ∨ a.server.flags.isRaised flag
  /-- The batch that is hit handles one more entry at most. -/
  count_handled_le_one : ∀ b w events c, Step a (.cancelled true) b → w ∈ a.workers →
    Run b events c → events.count (.handled w.flag) ≤ 1
  /-- Only where a batch handles an entry the catalog changes. -/
  catalog_eq : ∀ e b, Step a e b → (∀ flag, e ≠ .handled flag) →
    b.server.catalog = a.server.catalog
  flag_ne : ∀ b w events c flag d, Step a (.cancelled true) b → w ∈ a.workers →
    Run b events c → Step c (.started flag) d → flag ≠ w.flag ∧ ¬d.server.flags.isRaised flag
  not_cancelled : ∀ b, Step a (.cancelled false) b → b = a
  abandoned : ∀ b, Step a .abandoned b → b.server = a.server ∧ b.workers = a.workers
  /-- A batch that is under way always has a next step. -/
  exists_step : ∀ w ∈ a.workers, ∃ b, Step a (.looked w.flag) b ∨ Step a (.handled w.flag) b ∨
    Step a (.finished w.flag w.report) b
  finished : ∀ flag report b, Step a (.finished flag report) b →
    b.workers = [] ∧ b.server.flags.running = none
  accepted : a.workers = [] → ∀ files r p, a.server.prepare files r = .ok p →
    ∃ report s, a.server.indexBatch files r = .ok (report, s)
  accepted_ready : a.workers = [] → ∀ xs ys detect es, a.clients = xs ++ .ready detect es :: ys →
    ∃ flag b, Step a (.started flag) b ∧ b.clients = xs ++ .waiting flag :: ys
  not_refused : a.workers = [] → ∀ b, ¬Step a (.refused .batchRunning) b

/-- Whatever happens on a server and in whatever order, batches do not get in each other's way. -/
theorem Reachable.oneBatch (h : Reachable a) : OneBatch a where
  alone := h.sound.length_workers_le_one
  running_eq_some_iff flag := h.sound.running_eq_some_iff
  started flag b hb := hb.started
  uncancelled flag b events c hb hr hc := (h.sound.step hb).run_uncancelled hr hb.started.2 hc
  conflict hw files r p hp := by
    rw [perform, indexBatch_of_prepare hp, runBatch, h.sound.start?_eq_none hw]
    exact ⟨rfl, rfl⟩
  refused_ready hw xs ys detect es hc :=
    .refuseReady xs ys hc (h.sound.start?_eq_none hw)
  not_started hw flag b hb := h.sound.running_ne_none hw hb.started_eq.1
  refused r b hb := hb.refused
  cancel_answered r hr := by
    rw [← h.sound.isSome_running, ← Flags.cancel_fst]
    exact ⟨_, .cancel (cancelBatch_eq_ok_iff.2 ⟨hr, rfl, rfl⟩)⟩
  cancelled b hb := by
    obtain ⟨flag, hr, hf⟩ := hb.cancelled_true
    obtain ⟨w, hw, rfl⟩ := h.sound.workers_eq_singleton hr
    refine ⟨w, hw, hb.workers_of_cancelled.trans hw, ?_, hb.catalog_eq (by simp), fun flag => ?_⟩
    · rw [hf]
      exact hr
    · rw [hf]
      exact Flags.isRaised_raise hr
  count_handled_le_one b w events c hb hw hr := h.sound.count_handled_le_one hb hw hr
  catalog_eq e b hb he := hb.catalog_eq he
  flag_ne b w events c flag d hb hw hr hd := by
    refine ⟨?_, hd.started.2⟩
    rintro rfl
    have hf := h.sound.isRaised_of_cancelled hb hw
    exact hd.started.2 (hd.isRaised (hr.isRaised hf))
  not_cancelled b hb := hb.eq_of_cancelled_false
  abandoned b hb := by
    cases hb with
    | abandon => exact ⟨rfl, rfl⟩
  exists_step w hw := exists_step_of_mem hw
  finished flag report b hb := by
    have hr : b.server.flags.running = none := by rw [hb.flags_eq]; rfl
    exact ⟨(h.sound.step hb).workers_eq_nil hr, hr⟩
  accepted hw files r p hp := by
    rw [indexBatch_of_prepare hp, runBatch, h.sound.start?_eq_some hw]
    exact ⟨_, _, rfl⟩
  accepted_ready hw xs ys detect es hc :=
    ⟨_, _, .start xs ys (.empty []) hc (h.sound.start?_eq_some hw), rfl⟩
  not_refused hw b hb := hb.refused_batchRunning (h.sound.running_eq_none hw)

def oneFile : Storage :=
  .ofList [] [("a", ⟨#[]⟩)]

def oneFileServer : Server :=
  start (.empty .default oneFile) (some "t")

def oneFileRequest : Request :=
  ⟨"POST", "/index/batch", [], [("x-admin-token", "t"), ("content-type", "application/json")],
    "\x7b\"paths\":[\"a\"]\x7d"⟩

theorem authorize_oneFileRequest : oneFileServer.authorize oneFileRequest = .ok () := by
  decide +kernel

theorem prepare_oneFileRequest : oneFileServer.prepare oneFile oneFileRequest =
    .ok (oneFileServer.detector, [.unreadable]) := by
  have hr : batchRequest oneFileRequest = .ok ⟨["a"], none⟩ := by decide +kernel
  have hc : Article.Source.collect oneFile "a" = .ok ["a"] := by decide +kernel
  have he : Batch.entries oneFile ["a"] = [.unreadable] := by decide +kernel
  have hp : oneFileServer.plan oneFile ⟨["a"], none⟩ =
      .ok (oneFileServer.detector, [.unreadable]) := by
    rw [plan, List.mapM_cons, hc, ← he]
    rfl
  exact bind_eq_ok_iff.2 ⟨_, hr, bind_eq_ok_iff.2 ⟨(), authorize_oneFileRequest, hp⟩⟩

theorem oneBatch_of_cancel :
    let w : Worker := ⟨0, oneFileServer.detector, oneFile, .none, .holding .unreadable []⟩
    let s := { oneFileServer with flags := oneFileServer.flags.issue.cancel.2 }
    Reachable ⟨s, [w], [.waiting 0]⟩ ∧ s.flags.isRaised w.flag ∧ OneBatch ⟨s, [w], [.waiting 0]⟩ := by
  intro w s
  have hr : Run ⟨oneFileServer, [], []⟩ [.prepared, .started 0, .looked 0, .cancelled true]
      ⟨s, [w], [.waiting 0]⟩ := by
    refine .cons (.prepare prepare_oneFileRequest) ?_
    refine .cons (.start [] [] oneFile rfl rfl) ?_
    refine .cons (.look [] [] { w with phase := .looking [.unreadable] } rfl (.next rfl ?_)) ?_
    · exact Bool.false_ne_true
    refine .cons (.cancel (cancelBatch_eq_ok_iff.2 ⟨authorize_oneFileRequest, rfl, rfl⟩)) ?_
    exact .nil _
  have hs : Reachable ⟨s, [w], [.waiting 0]⟩ := ⟨oneFileServer, _, rfl, hr⟩
  exact ⟨hs, rfl, hs.oneBatch⟩

end Retrieval.Server.Activity
