import Retrieval.Proofs.Server.Admin
import Retrieval.Proofs.Server.Exclusion

namespace Retrieval

def Storage.has (files : Storage) (path : String) : Bool :=
  (files.file? path).isSome || files.isFolder path

namespace Article.Source

variable {files : Storage} {path : String}

theorem collect_of_not_has (h : ¬files.has path) :
    collect files path = .error (.missingInput path) := by
  obtain ⟨hf, hd⟩ : ¬(files.file? path).isSome ∧ ¬files.isFolder path := by
    simpa [Storage.has] using h
  rw [collect, if_neg hf, if_neg hd]

theorem exists_collect_of_has (h : files.has path) : ∃ found, collect files path = .ok found := by
  rw [collect]
  split
  · exact ⟨_, rfl⟩
  · next hf =>
    have hd : files.isFolder path := by simpa [Storage.has, hf] using h
    exact ⟨_, if_pos hd⟩

/-- A list of paths is collected up to the first one that leads nowhere. -/
theorem mapM_collect_of_find?_eq_some {paths : List String}
    (h : paths.find? (fun path => !files.has path) = some path) :
    paths.mapM (collect files) = .error (.missingInput path) := by
  obtain ⟨hp, good, others, rfl, hg⟩ := List.find?_eq_some_iff_append.1 h
  have hn : ¬files.has path := by simpa using hp
  clear h
  induction good with
  | nil => rw [List.nil_append, List.mapM_cons, collect_of_not_has hn]; rfl
  | cons p good ih =>
    rw [List.forall_mem_cons] at hg
    obtain ⟨found, hf⟩ := exists_collect_of_has (by simpa using hg.1)
    rw [List.cons_append, List.mapM_cons, hf]
    exact bind_eq_error_iff.2 (.inr ⟨found, rfl, bind_eq_error_iff.2 (.inl (ih hg.2))⟩)

end Article.Source

namespace Server

def refusedStatuses : List Nat :=
  [400, 401, 404, 405, 409, 413, 415, 422]

/-- An answer that is to the point, or a refusal that leaves the server as it is. -/
def Settles (s : Server) (answer : Response × Server) : Prop :=
  answer.1.status = 200 ∨ answer.1.status ∈ refusedStatuses ∧ answer.2 = s

/-- A request for a batch, said well enough to be read. -/
structure Request.Orders (r : Request) (b : BatchRequest) : Prop where
  method : r.method = "POST"
  path : Route.ofPath? r.path = some .indexBatch
  body : batchRequest r = .ok b

variable {s : Server} {files : Storage} {r : Request} {b : BatchRequest}

theorem status_refuse_mem (e : Refusal) : (Response.refuse e).status ∈ refusedStatuses := by
  cases e <;> simp [Response.refuse, Refusal.status, refusedStatuses]

theorem status_ofResult (x : Except Refusal Json.Value) :
    (Response.ofResult x).status = 200 ∨ (Response.ofResult x).status ∈ refusedStatuses := by
  cases x with
  | ok v => exact .inl rfl
  | error e => exact .inr (status_refuse_mem e)

theorem status_get (s : Server) (files : Storage) (r : Request) (route : Route) :
    (s.get files r route).status = 200 ∨ (s.get files r route).status ∈ refusedStatuses := by
  cases route with
  | health | stats => exact .inl rfl
  | search =>
    rw [get]
    split
    · exact .inr (status_refuse_mem _)
    · exact status_ofResult _
  | document language id =>
    rw [get]
    split
    · exact status_ofResult _
    · exact .inr (status_refuse_mem _)
  | indexBatch | cancelBatch => exact .inr (status_refuse_mem .methodNotAllowed)

theorem settles_ok (v : Json.Value) (s' : Server) : s.Settles (.ok v, s') :=
  .inl rfl

theorem settles_refuse (e : Refusal) : s.Settles (.refuse e, s) :=
  .inr ⟨status_refuse_mem e, rfl⟩

theorem settles_get (s : Server) (files : Storage) (r : Request) (route : Route) :
    s.Settles (if r.method == "HEAD" then (s.get files r route).withoutBody
      else s.get files r route, s) := by
  have h := (status_get s files r route).imp_right fun h => And.intro h (Eq.refl s)
  split <;> exact h

theorem settles_perform (s : Server) (files : Storage) (r : Request) (route : Route) :
    s.Settles (s.perform files r route) := by
  cases route with
  | indexBatch | cancelBatch =>
    rw [perform]
    split
    · exact settles_ok _ _
    · exact settles_refuse _
  | health | search | document | stats => exact settles_get s files r _

theorem settles_handle (s : Server) (files : Storage) (r : Request) :
    s.Settles (s.handle files r) := by
  rcases handle_cases s files r with h | ⟨e, h⟩ | ⟨route, h⟩ <;> rw [h]
  · exact .inl rfl
  · exact settles_refuse e
  · exact settles_perform s files r route

theorem Settles.snd_eq {answer : Response × Server} (h : s.Settles answer)
    (hr : answer.1.status ∈ refusedStatuses) : answer.2 = s := by
  rcases h with h | h
  · rw [h] at hr
    exact absurd hr (by decide)
  · exact h.2

theorem handle_of_plan_eq_error {e : Refusal} (ho : r.Orders b) (ha : s.authorize r = .ok ())
    (he : s.plan files b = .error e) : s.handle files r = (.refuse e, s) := by
  have hp : s.prepare files r = .error e :=
    bind_eq_error_iff.2 (.inr ⟨b, ho.body, bind_eq_error_iff.2 (.inr ⟨(), ha, he⟩)⟩)
  have hi : s.indexBatch files r = .error e := by
    rw [indexBatch_eq]
    exact bind_eq_error_iff.2 (.inl hp)
  rw [handle_of_post ho.method ho.path rfl, perform, hi]

def UnknownLanguage (language : Option String) (e : UnknownName) : Prop :=
  ∃ name, language = some name ∧ name ≠ "auto" ∧ Language.ofName name = .error e

theorem detector?_of_unknown {language : Option String} {e : UnknownName}
    (h : UnknownLanguage language e) : s.detector? language = .error (.unknownLanguage e) := by
  obtain ⟨name, rfl, hn, he⟩ := h
  rw [detector?, he]
  · rfl
  · rintro rfl
    exact hn rfl

theorem exists_detector?_or_unknown (s : Server) (language : Option String) :
    (∃ detect, s.detector? language = .ok detect) ∨ ∃ e, UnknownLanguage language e := by
  unfold detector?
  split
  · exact .inl ⟨_, rfl⟩
  · exact .inl ⟨_, rfl⟩
  · next name hn =>
    cases he : Language.ofName name with
    | ok l => exact .inl ⟨_, rfl⟩
    | error e => exact .inr ⟨e, name, rfl, hn, he⟩

theorem plan_of_unknown {e : UnknownName} (h : UnknownLanguage b.language e) :
    s.plan files b = .error (.unknownLanguage e) :=
  bind_eq_error_iff.2 (.inl (detector?_of_unknown h))

theorem plan_of_missing {detect : Detector} {path : String}
    (hd : s.detector? b.language = .ok detect)
    (hp : b.paths.find? (fun path => !files.has path) = some path) :
    s.plan files b = .error (.missingInput (.missingInput path)) := by
  apply bind_eq_error_iff.2
  right
  refine ⟨detect, hd, bind_eq_error_iff.2 (.inl ?_)⟩
  rw [Article.Source.mapM_collect_of_find?_eq_some hp]
  rfl

theorem exists_plan_eq_error
    (h : (∃ e, UnknownLanguage b.language e) ∨ ∃ path ∈ b.paths, ¬files.has path) :
    ∃ e, s.plan files b = .error e ∧ e.status = 400 := by
  rcases s.exists_detector?_or_unknown b.language with ⟨detect, hd⟩ | ⟨e, he⟩
  · rcases h with ⟨e, he⟩ | ⟨path, hm, hn⟩
    · exact ⟨_, plan_of_unknown he, rfl⟩
    · have hf : (b.paths.find? fun path => !files.has path).isSome := by
        rw [List.find?_isSome]
        exact ⟨path, hm, by simpa using hn⟩
      obtain ⟨missing, hf⟩ := Option.isSome_iff_exists.1 hf
      exact ⟨_, plan_of_missing hd hf, rfl⟩
  · exact ⟨_, plan_of_unknown he, rfl⟩

/-- Whether an event belongs to a request that comes to nothing, or that has not come to anything
yet. -/
def Event.isIdle : Event → Bool
  | .prepared | .refused _ | .abandoned => true
  | .started _ | .cancelled _ | .looked _ | .handled _ | .finished _ _ => false

namespace Activity

variable {a a' : Activity} {e : Event} {events : List Event}

theorem Step.eq_of_isIdle (h : Step a e a') (he : e.isIdle) :
    a'.server = a.server ∧ a'.workers = a.workers := by
  cases h with
  | refuseBatch | prepare | refuseReady | refuseCancel | abandon => exact ⟨rfl, rfl⟩
  | start | cancel | look | handle | finish => exact absurd he Bool.false_ne_true

theorem Run.eq_of_isIdle (h : Run a events a') (he : ∀ e ∈ events, e.isIdle) :
    a'.server = a.server ∧ a'.workers = a.workers := by
  induction h with
  | nil a => exact ⟨rfl, rfl⟩
  | cons h _ ih =>
    rw [List.forall_mem_cons] at he
    obtain ⟨hs, hw⟩ := h.eq_of_isIdle he.1
    obtain ⟨hs', hw'⟩ := ih he.2
    exact ⟨hs'.trans hs, hw'.trans hw⟩

end Activity

/-- A server does not notice the requests that it refuses. -/
structure UnchangedByRefusals (s : Server) : Prop where
  handle_snd : ∀ files r, (s.handle files r).1.status ∈ refusedStatuses → (s.handle files r).2 = s
  status : ∀ files r,
    (s.handle files r).1.status = 200 ∨ (s.handle files r).1.status ∈ refusedStatuses
  refused_batch : ∀ files r b, r.Orders b → s.authorize r = .ok () →
    ((∃ e, UnknownLanguage b.language e) ∨ ∃ path ∈ b.paths, ¬files.has path) →
      (s.handle files r).1.status = 400 ∧ (s.handle files r).2 = s
  unknownLanguage : ∀ files r b e, r.Orders b → s.authorize r = .ok () →
    UnknownLanguage b.language e → s.handle files r = (.refuse (.unknownLanguage e), s)
  missingInput : ∀ files r b detect path, r.Orders b → s.authorize r = .ok () →
    s.detector? b.language = .ok detect → b.paths.find? (fun path => !files.has path) = some path →
      s.handle files r = (.refuse (.missingInput (.missingInput path)), s)
  /-- The stages of several requests may alternate. -/
  run : ∀ workers clients events a, Activity.Run ⟨s, workers, clients⟩ events a →
    (∀ e ∈ events, e.isIdle) → a.server = s ∧ a.workers = workers

theorem unchangedByRefusals (s : Server) : UnchangedByRefusals s where
  handle_snd files r h := (settles_handle s files r).snd_eq h
  status files r := (settles_handle s files r).imp_right And.left
  refused_batch files r b ho ha h := by
    obtain ⟨e, he, hs⟩ := exists_plan_eq_error h
    rw [handle_of_plan_eq_error ho ha he]
    exact ⟨hs, rfl⟩
  unknownLanguage files r b e ho ha h := handle_of_plan_eq_error ho ha (plan_of_unknown h)
  missingInput files r b detect path ho ha hd hp :=
    handle_of_plan_eq_error ho ha (plan_of_missing hd hp)
  run workers clients events a h he := h.eq_of_isIdle he

def twoFilesRequest : Request :=
  { Activity.oneFileRequest with body := "\x7b\"paths\":[\"a\",\"b\"]\x7d" }

theorem refused_for_second_file :
    let s := { Activity.oneFileServer with flags := Activity.oneFileServer.flags.issue }
    s.flags.running = some 0 ∧ s.handle Activity.oneFile twoFilesRequest =
      (.refuse (.missingInput (.missingInput "b")), s) := by
  intro s
  have ho : twoFilesRequest.Orders ⟨["a", "b"], none⟩ :=
    ⟨rfl, by decide +kernel, by decide +kernel⟩
  have hp : ["a", "b"].find? (fun path => !Activity.oneFile.has path) = some "b" := by
    decide +kernel
  have ha : s.authorize twoFilesRequest = .ok () := by decide +kernel
  exact ⟨rfl, (unchangedByRefusals s).missingInput _ _ _ s.detector "b" ho ha rfl hp⟩

end Server

end Retrieval
