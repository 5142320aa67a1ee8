import Retrieval.Proofs.Except
import Retrieval.Server.Indexing

namespace Retrieval.Server

/-- All that is looked at in a batch request before it is its turn. Nothing else that happens on a
server makes a difference to it. -/
def prepare (s : Server) (files : Storage) (r : Request) :
    Except Refusal (Detector × List Batch.Entry) := do
  let b ← batchRequest r
  s.authorize r
  s.plan files b

variable {s : Server} {files : Storage} {r : Request}

theorem indexBatch_eq (s : Server) (files : Storage) (r : Request) :
    s.indexBatch files r = s.prepare files r >>= fun p => s.runBatch files p.1 p.2 := by
  rw [indexBatch, prepare]
  cases batchRequest r with
  | error e => rfl
  | ok b =>
    cases s.authorize r with
    | error e => rfl
    | ok u => rfl

theorem indexBatch_of_prepare {detect : Detector} {es : List Batch.Entry}
    (h : s.prepare files r = .ok (detect, es)) : s.indexBatch files r = s.runBatch files detect es := by
  rw [indexBatch_eq, h]
  rfl

theorem cancelBatch_eq_ok_iff {answer : Bool} {s' : Server} :
    s.cancelBatch r = .ok (answer, s') ↔ s.authorize r = .ok () ∧
      answer = s.flags.cancel.1 ∧ s' = { s with flags := s.flags.cancel.2 } := by
  rw [cancelBatch, bind_eq_ok_iff]
  constructor
  · rintro ⟨u, ha, h⟩
    cases h
    exact ⟨ha, rfl, rfl⟩
  · rintro ⟨ha, rfl, rfl⟩
    exact ⟨(), ha, rfl⟩

theorem authorize_ne_batchRunning : s.authorize r ≠ .error .batchRunning := by
  rw [authorize]
  split
  · exact nofun
  · split <;> exact nofun

theorem batchRequest_ne_batchRunning : batchRequest r ≠ .error .batchRunning := by
  rw [batchRequest]
  split
  · exact nofun
  · split
    · exact nofun
    · cases BatchRequest.ofText r.body with
      | ok b => exact nofun
      | error e => cases e <;> exact nofun

theorem detector?_ne_batchRunning {name : Option String} :
    s.detector? name ≠ .error .batchRunning := by
  unfold detector?
  split
  · exact nofun
  · exact nofun
  · next name _ => cases Language.ofName name <;> exact nofun

theorem plan_ne_batchRunning {b : BatchRequest} : s.plan files b ≠ .error .batchRunning := by
  intro h
  rcases bind_eq_error_iff.1 h with h | ⟨detect, _, h⟩
  · exact detector?_ne_batchRunning h
  · cases hp : b.paths.mapM (Article.Source.collect files) <;> rw [hp] at h <;> cases h

theorem prepare_ne_batchRunning : s.prepare files r ≠ .error .batchRunning := by
  intro h
  rcases bind_eq_error_iff.1 h with h | ⟨b, _, h⟩
  · exact batchRequest_ne_batchRunning h
  · rcases bind_eq_error_iff.1 h with h | ⟨u, _, h⟩
    · exact authorize_ne_batchRunning h
    · exact plan_ne_batchRunning h

theorem cancelBatch_ne_batchRunning : s.cancelBatch r ≠ .error .batchRunning := by
  intro h
  rcases bind_eq_error_iff.1 h with h | ⟨u, _, h⟩
  · exact authorize_ne_batchRunning h
  · cases h

end Retrieval.Server
