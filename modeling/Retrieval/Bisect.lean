namespace Retrieval.Bisect

variable {α : Type}

def searchFrom (xs : Array α) (p : α → Bool) (lo hi : Nat) (h : hi ≤ xs.size) : Nat :=
  if hlt : lo < hi then
    let mid := (lo + hi) / 2
    have hmid : mid < xs.size := by omega
    if p xs[mid] then searchFrom xs p (mid + 1) hi h
    else searchFrom xs p lo mid (by omega)
  else lo
termination_by hi - lo

/-- The number of leading elements with the property, if no element with it follows one without. -/
def search (xs : Array α) (p : α → Bool) : Nat :=
  searchFrom xs p 0 xs.size (Nat.le_refl _)

def Leading (xs : Array α) (p : α → Bool) : Prop :=
  ∀ (i j : Nat) (_ : i < j) (hj : j < xs.size), p xs[j] = true → p xs[i] = true

theorem searchFrom_splits {xs : Array α} {p : α → Bool} (hp : Leading xs p) (lo hi : Nat)
    (h : hi ≤ xs.size) (hle : lo ≤ hi)
    (below : ∀ i (hi : i < xs.size), i < lo → p xs[i] = true)
    (above : ∀ i (hi' : i < xs.size), hi ≤ i → p xs[i] = false) (i : Nat) (hx : i < xs.size) :
    p xs[i] = decide (i < searchFrom xs p lo hi h) := by
  fun_induction searchFrom xs p lo hi h with
  | case1 lo hi h hlt mid hmid hpm ih =>
    refine ih (by omega) (fun i hx hi => ?_) above
    rcases Nat.lt_or_eq_of_le (Nat.le_of_lt_succ hi) with h' | h'
    · exact hp i mid h' (by omega) hpm
    · subst h'; exact hpm
  | case2 lo hi h hlt mid hmid hpm ih =>
    refine ih (by omega) below (fun i hx hi => ?_)
    rcases Nat.lt_or_eq_of_le hi with h' | h'
    · cases hi' : p xs[i] with
      | false => rfl
      | true => exact absurd (hp mid i h' hx hi') hpm
    · subst h'; simpa using hpm
  | case3 lo hi h hlt =>
    by_cases hil : i < lo
    · simp [hil, below i hx hil]
    · simp [hil, above i hx (by omega)]

theorem getElem_search {xs : Array α} {p : α → Bool} (hp : Leading xs p) (i : Nat)
    (hx : i < xs.size) : p xs[i] = decide (i < search xs p) :=
  searchFrom_splits hp 0 xs.size (Nat.le_refl _) (Nat.zero_le _) (fun _ _ h => absurd h (by omega))
    (fun _ h h' => absurd h (by omega)) i hx

end Retrieval.Bisect
