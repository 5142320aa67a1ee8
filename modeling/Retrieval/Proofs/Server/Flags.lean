import Retrieval.Server.Flags

namespace Retrieval.Server.Flags

variable {f f' : Flags} {flag other : Nat}

theorem isRaised_iff : f.isRaised flag ↔ flag ∈ f.raised :=
  List.contains_iff_mem

theorem not_isRaised_fresh (f : Flags) : ¬f.isRaised f.fresh := fun h =>
  Nat.lt_irrefl _ (f.lt_fresh f.fresh (.inl (isRaised_iff.1 h)))

theorem start?_eq_none_iff : f.start? = Option.none ↔ f.running ≠ Option.none := by
  rw [start?]
  split
  · next h => exact iff_of_true rfl (Option.isSome_iff_ne_none.1 h)
  · next h => exact iff_of_false (Option.some_ne_none _) fun hn => h (Option.isSome_iff_ne_none.2 hn)

theorem start?_eq_some_iff :
    f.start? = some (flag, f') ↔ f.running = Option.none ∧ flag = f.fresh ∧ f' = f.issue := by
  rw [start?]
  split
  · next h => exact iff_of_false nofun fun hn => Option.isSome_iff_ne_none.1 h hn.1
  · next h =>
    have hr := Option.not_isSome_iff_eq_none.1 h
    rw [occupy, Option.some.injEq, Prod.mk.injEq]
    constructor
    · rintro ⟨rfl, rfl⟩
      exact ⟨hr, rfl, rfl⟩
    · rintro ⟨_, rfl, rfl⟩
      exact ⟨rfl, rfl⟩

theorem cancel_of_idle (h : f.running = Option.none) : f.cancel = (false, f) := by
  rw [cancel]
  split
  · next hf =>
    rw [h] at hf
    cases hf
  · rfl

theorem cancel_of_running (h : f.running = some flag) : f.cancel = (true, f.raise flag h) := by
  rw [cancel]
  split
  · next hf =>
    cases hf.symm.trans h
    rfl
  · next hf =>
    rw [h] at hf
    cases hf

theorem isRaised_raise (h : f.running = some flag) :
    (f.raise flag h).isRaised other ↔ other = flag ∨ f.isRaised other := by
  rw [isRaised_iff, isRaised_iff]
  exact List.mem_cons

theorem cancel_fst (f : Flags) : f.cancel.1 = f.running.isSome := by
  cases h : f.running with
  | none => rw [cancel_of_idle h, Option.isSome_none]
  | some flag => rw [cancel_of_running h, Option.isSome_some]

theorem running_cancel (f : Flags) : f.cancel.2.running = f.running := by
  cases h : f.running with
  | none => rw [cancel_of_idle h, h]
  | some flag =>
    rw [cancel_of_running h]
    exact h

theorem isRaised_cancel (h : f.isRaised flag) : f.cancel.2.isRaised flag := by
  cases hr : f.running with
  | none => rwa [cancel_of_idle hr]
  | some other =>
    rw [cancel_of_running hr]
    exact (isRaised_raise hr).2 (.inr h)

theorem cancel_eq_self (h : f.cancel.1 ≠ true) : f.cancel.2 = f := by
  cases hr : f.running with
  | none => rw [cancel_of_idle hr]
  | some other => exact absurd (by rw [cancel_of_running hr]) h

end Retrieval.Server.Flags
