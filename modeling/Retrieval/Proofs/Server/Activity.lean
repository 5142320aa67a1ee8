import Retrieval.Proofs.Batch.Outcome
import Retrieval.Proofs.Server.Indexing

namespace Retrieval.Server

/-- Where a batch stands. It looks at its flag with the next entry still unread, and handles the
entry afterwards. -/
inductive Phase
  | looking (unread : List Batch.Entry)
  | holding (e : Batch.Entry) (unread : List Batch.Entry)
  | ended
  deriving DecidableEq, Repr

/-- A batch that has been started and that has not given up its place. -/
structure Worker where
  flag : Nat
  detect : Detector
  files : Storage
  report : Batch.Report
  phase : Phase

namespace Worker

inductive Looks (flags : Flags) (w : Worker) : Worker → Prop
  | last (hp : w.phase = .looking []) : Looks flags w { w with phase := .ended }
  | cancelled {e : Batch.Entry} {es : List Batch.Entry} (hp : w.phase = .looking (e :: es))
      (hf : flags.isRaised w.flag) :
      Looks flags w { w with report := { w.report with cancelled := true }, phase := .ended }
  | next {e : Batch.Entry} {es : List Batch.Entry} (hp : w.phase = .looking (e :: es))
      (hf : ¬flags.isRaised w.flag) : Looks flags w { w with phase := .holding e es }

def holds (flag : Nat) (w : Worker) : Bool :=
  w.flag == flag &&
    match w.phase with
    | .holding _ _ => true
    | _ => false

end Worker

/-- A client with a batch request, before it is its turn and after its batch has been started. -/
inductive Client
  | ready (detect : Detector) (es : List Batch.Entry)
  | waiting (flag : Nat)

def Client.waitsFor (flag : Nat) : Client → Bool
  | .ready _ _ => false
  | .waiting other => other == flag

structure Activity where
  server : Server
  workers : List Worker
  clients : List Client

inductive Event
  | prepared
  | refused (e : Refusal)
  | started (flag : Nat)
  | cancelled (answer : Bool)
  | looked (flag : Nat)
  | handled (flag : Nat)
  | finished (flag : Nat) (report : Batch.Report)
  | abandoned
  deriving DecidableEq, Repr

namespace Activity

/-- What happens on a server without anything else in between. Whoever looks at the place of the
running batch may change it before another one looks, and a catalog takes one document at a time. -/
inductive Step (a : Activity) : Event → Activity → Prop
  | refuseBatch {files : Storage} {r : Request} {e : Refusal}
      (h : a.server.prepare files r = .error e) : Step a (.refused e) a
  | prepare {files : Storage} {r : Request} {detect : Detector} {es : List Batch.Entry}
      (h : a.server.prepare files r = .ok (detect, es)) :
      Step a .prepared { a with clients := .ready detect es :: a.clients }
  | refuseReady (xs ys : List Client) {detect : Detector} {es : List Batch.Entry}
      (hc : a.clients = xs ++ .ready detect es :: ys) (h : a.server.flags.start? = none) :
      Step a (.refused .batchRunning) { a with clients := xs ++ ys }
  | start (xs ys : List Client) (files : Storage) {detect : Detector} {es : List Batch.Entry}
      {flag : Nat} {flags : Flags} (hc : a.clients = xs ++ .ready detect es :: ys)
      (h : a.server.flags.start? = some (flag, flags)) :
      Step a (.started flag) ⟨{ a.server with flags := flags },
        ⟨flag, detect, files, .none, .looking es⟩ :: a.workers, xs ++ .waiting flag :: ys⟩
  | refuseCancel {r : Request} {e : Refusal} (h : a.server.cancelBatch r = .error e) :
      Step a (.refused e) a
  | cancel {r : Request} {answer : Bool} {s : Server}
      (h : a.server.cancelBatch r = .ok (answer, s)) :
      Step a (.cancelled answer) { a with server := s }
  | look (us vs : List Worker) (w : Worker) {w' : Worker} (hw : a.workers = us ++ w :: vs)
      (h : w.Looks a.server.flags w') :
      Step a (.looked w.flag) { a with workers := us ++ w' :: vs }
  | handle (us vs : List Worker) (w : Worker) {e : Batch.Entry} {es : List Batch.Entry}
      {report : Batch.Report} {c : Catalog} (hw : a.workers = us ++ w :: vs)
      (hp : w.phase = .holding e es)
      (h : Batch.step w.detect w.report (a.server.catalog.on w.files) e = (report, c)) :
      Step a (.handled w.flag) ⟨{ a.server with catalog := c },
        us ++ { w with report := report, phase := .looking es } :: vs, a.clients⟩
  | finish (us vs : List Worker) (w : Worker) (hw : a.workers = us ++ w :: vs)
      (hp : w.phase = .ended) :
      Step a (.finished w.flag w.report) ⟨{ a.server with flags := a.server.flags.finish },
        us ++ vs, a.clients.filter fun x => !x.waitsFor w.flag⟩
  | abandon (xs ys : List Client) {x : Client} (hc : a.clients = xs ++ x :: ys) :
      Step a .abandoned { a with clients := xs ++ ys }

inductive Run : Activity → List Event → Activity → Prop
  | nil (a : Activity) : Run a [] a
  | cons {a b c : Activity} {e : Event} {es : List Event} (h : Step a e b) (hs : Run b es c) :
      Run a (e :: es) c

/-- What can become of a server that has just been set up or has nothing to do. -/
def Reachable (a : Activity) : Prop :=
  ∃ s events, s.flags.running = none ∧ Run ⟨s, [], []⟩ events a

theorem Run.append {a b c : Activity} {es es' : List Event} (h : Run a es b) (h' : Run b es' c) :
    Run a (es ++ es') c := by
  induction h with
  | nil a => exact h'
  | cons h _ ih => exact .cons h (ih h')

theorem exists_run_runFrom (s : Server) (flag : Nat) (detect : Detector) (files : Storage)
    (report : Batch.Report) (c : Catalog) (n : Nat) (es : List Batch.Entry) (cs : List Client) :
    let p := Batch.runFrom (fun _ => s.flags.isRaised flag) detect n report (c.on files) es
    ∃ events c', c'.on files = p.2 ∧
      Run ⟨{ s with catalog := c }, [⟨flag, detect, files, report, .looking es⟩], cs⟩ events
        ⟨{ s with catalog := c' }, [⟨flag, detect, files, p.1, .ended⟩], cs⟩ := by
  induction es generalizing report c n with
  | nil => exact ⟨_, c, rfl, .cons (.look [] [] _ rfl (.last rfl)) (.nil _)⟩
  | cons e es ih =>
    intro p
    by_cases hf : s.flags.isRaised flag
    · have hp : p = ({ report with cancelled := true }, c.on files) := if_pos hf
      rw [hp]
      exact ⟨_, c, rfl, .cons (.look [] [] _ rfl (.cancelled rfl hf)) (.nil _)⟩
    · let q := Batch.step detect report (c.on files) e
      have hp : p = Batch.runFrom (fun _ => s.flags.isRaised flag) detect (n + 1) q.1 q.2 es :=
        if_neg hf
      have hq : q.2.on files = q.2 :=
        Catalog.on_of_files_eq (Batch.files_step detect (c.on files) report e)
      obtain ⟨events, c', hc, hr⟩ := ih q.1 q.2 (n + 1)
      rw [hq] at hc hr
      rw [hp]
      exact ⟨_, c', hc,
        .cons (.look [] [] _ rfl (.next rfl hf)) (.cons (.handle [] [] _ rfl rfl rfl) hr)⟩

/-- A request that is answered before anything else happens does what all its steps do. The catalog
of a batch that has handled nothing has not been asked for the files. -/
theorem exists_run_of_indexBatch {s s' : Server} {files : Storage} {r : Request}
    {report : Batch.Report} (h : s.indexBatch files r = .ok (report, s')) :
    ∃ flag events c, c.on files = s'.catalog ∧ Run ⟨s, [], []⟩
      (.prepared :: .started flag :: events ++ [.finished flag report])
      ⟨{ s' with catalog := c }, [], []⟩ := by
  rw [indexBatch_eq] at h
  obtain ⟨⟨detect, es⟩, hp, hb⟩ := bind_eq_ok_iff.1 h
  rw [runBatch] at hb
  split at hb
  · cases hb
  · next flag flags hs =>
    cases hb
    obtain ⟨events, c, hc, hr⟩ := exists_run_runFrom { s with flags := flags } flag detect files .none
      s.catalog 0 es [.waiting flag]
    let p := Batch.run (fun _ => flags.isRaised flag) detect (s.catalog.on files) es
    let w : Worker := ⟨flag, detect, files, p.1, .ended⟩
    let t : Server := ⟨c, s.detector, s.adminToken, flags⟩
    have hw : [Client.waiting flag].filter (fun x => !x.waitsFor flag) = [] := by
      simp [Client.waitsFor]
    have hl := Step.finish (a := ⟨t, [w], [.waiting flag]⟩) [] [] w rfl rfl
    rw [hw] at hl
    exact ⟨flag, events, c, hc,
      .cons (.prepare hp) (.cons (.start [] [] files rfl hs) (hr.append (.cons hl (.nil _))))⟩

end Activity

end Retrieval.Server
