import Retrieval.Proofs.Server.Flags
import Retrieval.Proofs.Server.Indexing
import Retrieval.Server.Handle

namespace Retrieval.Server

def carries (s : Server) (r : Request) : Bool :=
  s.adminToken.isSome && r.header? "X-ADMIN-TOKEN" == s.adminToken

/-- Whether a request without a token that can be read gets by, because an empty one is asked for. -/
def lapses (s : Server) (r : Request) : Bool :=
  s.adminToken == some "" && ((r.header? "X-ADMIN-TOKEN").filter isHeaderText).isNone

def admits (s : Server) (r : Request) : Bool :=
  s.carries r || s.lapses r

def after (s : Server) (rs : List (Storage × Request)) : Server :=
  rs.foldl (fun s q => (s.handle q.1 q.2).2) s

variable {s : Server} {files : Storage} {r : Request} {e : Refusal}

theorem exists_authorize_eq_error (h : ¬s.admits r) :
    ∃ e, s.authorize r = .error e ∧ e.status = 401 := by
  obtain ⟨hc, hl⟩ : ¬s.carries r ∧ ¬s.lapses r := by simpa [admits] using h
  rw [authorize]
  cases ht : s.adminToken with
  | none => exact ⟨.noAdminToken, rfl, rfl⟩
  | some token =>
    have hne : ((r.header? "X-ADMIN-TOKEN").filter isHeaderText).getD "" ≠ token := by
      intro he
      cases hf : (r.header? "X-ADMIN-TOKEN").filter isHeaderText with
      | none =>
        have hz : token = "" := by rw [← he, hf, Option.getD_none]
        exact hl (by simp [lapses, ht, hz, hf])
      | some sent =>
        have hs : sent = token := by rw [← he, hf, Option.getD_some]
        have hh := (Option.filter_eq_some_iff.1 hf).1
        exact hc (by simp [carries, ht, hh, hs])
    exact ⟨.wrongAdminToken, if_neg (by simpa using hne), rfl⟩

theorem prepare_ne_ok (h : s.authorize r = .error e) (p : Detector × List Batch.Entry) :
    s.prepare files r ≠ .ok p := by
  intro hp
  obtain ⟨b, _, hp⟩ := bind_eq_ok_iff.1 hp
  obtain ⟨u, ha, _⟩ := bind_eq_ok_iff.1 hp
  rw [h] at ha
  cases ha

theorem indexBatch_ne_ok (h : s.authorize r = .error e) (p : Batch.Report × Server) :
    s.indexBatch files r ≠ .ok p := by
  intro hp
  rw [indexBatch_eq] at hp
  obtain ⟨q, hq, _⟩ := bind_eq_ok_iff.1 hp
  exact prepare_ne_ok h q hq

theorem indexBatch_eq_error {b : BatchRequest} (hb : batchRequest r = .ok b)
    (h : s.authorize r = .error e) : s.indexBatch files r = .error e := by
  rw [indexBatch, hb]
  exact bind_eq_error_iff.2 (.inr ⟨b, rfl, bind_eq_error_iff.2 (.inl h)⟩)

theorem cancelBatch_eq_error (h : s.authorize r = .error e) : s.cancelBatch r = .error e :=
  bind_eq_error_iff.2 (.inl h)

theorem perform_snd_of_error (h : s.authorize r = .error e) (files : Storage) (route : Route) :
    (s.perform files r route).2 = s := by
  cases route with
  | indexBatch =>
    rw [perform]
    cases hi : s.indexBatch files r with
    | error e => rfl
    | ok p => exact absurd hi (indexBatch_ne_ok h p)
  | cancelBatch => rw [perform, cancelBatch_eq_error h]
  | health | search | document | stats => rfl

theorem handle_cases (s : Server) (files : Storage) (r : Request) :
    s.handle files r = (⟨200, .text ""⟩, s) ∨ (∃ e, s.handle files r = (.refuse e, s)) ∨
      ∃ route, s.handle files r = s.perform files r route := by
  rw [handle]
  split
  · exact .inl rfl
  · cases Route.ofPath? r.path with
    | none => exact .inr (.inl ⟨_, rfl⟩)
    | some route =>
      dsimp only
      split
      · exact .inr (.inr ⟨route, rfl⟩)
      · exact .inr (.inl ⟨_, rfl⟩)

theorem handle_snd_of_not_admits (h : ¬s.admits r) (files : Storage) :
    (s.handle files r).2 = s := by
  obtain ⟨e, he, _⟩ := exists_authorize_eq_error h
  rcases handle_cases s files r with h | ⟨_, h⟩ | ⟨route, h⟩ <;> rw [h]
  exact perform_snd_of_error he files route

theorem handle_of_post {route : Route} (hm : r.method = "POST")
    (hp : Route.ofPath? r.path = some route) (hr : route.isPost) :
    s.handle files r = s.perform files r route := by
  have ha : route.allows r.method := by
    rw [Route.allows, if_pos hr, hm]
    rfl
  rw [handle, if_neg (by simp [hm]), hp]
  exact if_pos ha

theorem perform_snd_adminToken (s : Server) (files : Storage) (r : Request) (route : Route) :
    (s.perform files r route).2.adminToken = s.adminToken := by
  cases route with
  | indexBatch =>
    rw [perform]
    cases hi : s.indexBatch files r with
    | error e => rfl
    | ok p =>
      rw [indexBatch_eq] at hi
      obtain ⟨q, _, hq⟩ := bind_eq_ok_iff.1 hi
      rw [runBatch] at hq
      split at hq
      · cases hq
      · cases hq
        rfl
  | cancelBatch =>
    rw [perform]
    cases hc : s.cancelBatch r with
    | error e => rfl
    | ok p =>
      obtain ⟨_, _, hs⟩ := cancelBatch_eq_ok_iff.1 hc
      dsimp only
      rw [hs]
  | health | search | document | stats => rfl

theorem handle_snd_adminToken (s : Server) (files : Storage) (r : Request) :
    (s.handle files r).2.adminToken = s.adminToken := by
  rcases handle_cases s files r with h | ⟨_, h⟩ | ⟨route, h⟩ <;> rw [h]
  exact perform_snd_adminToken s files r route

theorem after_adminToken (s : Server) (rs : List (Storage × Request)) :
    (s.after rs).adminToken = s.adminToken := by
  induction rs generalizing s with
  | nil => rfl
  | cons q rs ih =>
    have h := ih (s.handle q.1 q.2).2
    rw [after, List.foldl_cons, ← after, h, handle_snd_adminToken]

theorem admits_congr {t : Server} (h : t.adminToken = s.adminToken) (r : Request) :
    t.admits r = s.admits r := by
  rw [admits, admits, carries, carries, lapses, lapses, h]

/-- Requests that are not let pass could as well not have come. -/
theorem after_filter_admits (s : Server) (rs : List (Storage × Request)) :
    s.after (rs.filter fun q => s.admits q.2) = s.after rs := by
  induction rs generalizing s with
  | nil => rfl
  | cons q rs ih =>
    have h := ih (s.handle q.1 q.2).2
    simp only [admits_congr (handle_snd_adminToken s q.1 q.2)] at h
    rw [List.filter_cons]
    by_cases ha : s.admits q.2
    · rw [if_pos ha]
      exact h
    · have hs : s.after (q :: rs) = (s.handle q.1 q.2).2.after rs := rfl
      rw [handle_snd_of_not_admits ha] at h hs
      rw [if_neg ha, h, hs]

/-- Only requests with the token change a server, whatever other requests have come before, and with
them those that get by where the token is empty. -/
structure AdminOnly (s : Server) : Prop where
  handle_snd : ∀ before files r, ¬s.admits r →
    ((s.after before).handle files r).2 = s.after before
  after_filter : ∀ rs, s.after (rs.filter fun q => s.admits q.2) = s.after rs
  /-- With more things under way, such a request neither starts a batch nor cancels one. -/
  prepare_ne_ok : ∀ before files r p, ¬s.admits r → (s.after before).prepare files r ≠ .ok p
  cancelBatch_ne_ok : ∀ before r p, ¬s.admits r → (s.after before).cancelBatch r ≠ .ok p
  status_cancelBatch : ∀ before files r, ¬s.admits r → r.method = "POST" →
    Route.ofPath? r.path = some .cancelBatch → ((s.after before).handle files r).1.status = 401
  status_indexBatch : ∀ before files r b, ¬s.admits r → r.method = "POST" →
    Route.ofPath? r.path = some .indexBatch → batchRequest r = .ok b →
      ((s.after before).handle files r).1.status = 401

theorem adminOnly (s : Server) : AdminOnly s := by
  have ha : ∀ {before r}, ¬s.admits r → ¬(s.after before).admits r := by
    intro before r h
    rwa [admits_congr (after_adminToken s before)]
  constructor
  case handle_snd => exact fun before files r h => handle_snd_of_not_admits (ha h) files
  case after_filter => exact after_filter_admits s
  case prepare_ne_ok =>
    intro before files r p h
    obtain ⟨e, he, _⟩ := exists_authorize_eq_error (ha h)
    exact Server.prepare_ne_ok he p
  case cancelBatch_ne_ok =>
    intro before r p h
    obtain ⟨e, he, _⟩ := exists_authorize_eq_error (ha h)
    rw [cancelBatch_eq_error he]
    exact nofun
  case status_cancelBatch =>
    intro before files r h hm hp
    obtain ⟨e, he, hs⟩ := exists_authorize_eq_error (ha h)
    rw [handle_of_post hm hp rfl, perform, cancelBatch_eq_error he]
    exact hs
  case status_indexBatch =>
    intro before files r b h hm hp hb
    obtain ⟨e, he, hs⟩ := exists_authorize_eq_error (ha h)
    rw [handle_of_post hm hp rfl, perform, indexBatch_eq_error hb he]
    exact hs

def emptyTokenServer : Server :=
  { start (.empty .default (.empty [])) (some "") with flags := Flags.none.issue }

def cancelRequest : Request :=
  ⟨"POST", "/index/cancel", [], [], ""⟩

theorem raised_without_token : cancelRequest.header? "X-ADMIN-TOKEN" = none ∧
    ¬emptyTokenServer.carries cancelRequest ∧ ¬emptyTokenServer.flags.isRaised 0 ∧
    (emptyTokenServer.handle (.empty []) cancelRequest).2.flags.isRaised 0 ∧
    (emptyTokenServer.handle (.empty []) cancelRequest).1.status = 200 := by
  decide +kernel

end Retrieval.Server
