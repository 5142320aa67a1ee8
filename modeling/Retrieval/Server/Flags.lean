namespace Retrieval.Server

/-- The cancel flags of all batches, by number, and the one of the batch that runs. -/
structure Flags where
  fresh : Nat
  raised : List Nat
  running : Option Nat
  /-- Nobody has the flags of later batches. -/
  lt_fresh : ∀ flag, flag ∈ raised ∨ running = some flag → flag < fresh
  deriving DecidableEq, Repr

namespace Flags

def none : Flags where
  fresh := 0
  raised := []
  running := Option.none
  lt_fresh := by simp

def isRaised (f : Flags) (flag : Nat) : Bool :=
  f.raised.contains flag

def issue (f : Flags) : Flags :=
  { f with
    fresh := f.fresh + 1
    running := some f.fresh
    lt_fresh := fun flag h => by
      rcases h with h | h
      · exact Nat.lt_succ_of_lt (f.lt_fresh flag (.inl h))
      · exact Option.some.inj h ▸ Nat.lt_succ_self f.fresh }

def occupy (f : Flags) : Nat × Flags :=
  (f.fresh, f.issue)

def start? (f : Flags) : Option (Nat × Flags) :=
  if f.running.isSome then Option.none else some f.occupy

def raise (f : Flags) (flag : Nat) (h : f.running = some flag) : Flags :=
  { f with
    raised := flag :: f.raised
    lt_fresh := fun other ho => by
      rcases ho with ho | ho
      · rcases List.mem_cons.1 ho with rfl | ho
        · exact f.lt_fresh other (.inr h)
        · exact f.lt_fresh other (.inl ho)
      · exact f.lt_fresh other (.inr ho) }

def cancel (f : Flags) : Bool × Flags :=
  match h : f.running with
  | some flag => (true, f.raise flag h)
  | Option.none => (false, f)

def finish (f : Flags) : Flags :=
  { f with
    running := Option.none
    lt_fresh := fun flag h => f.lt_fresh flag (.inl (h.resolve_right nofun)) }

end Flags

end Retrieval.Server
