import Std.Data.TreeMap
import Retrieval.Bisect
import Retrieval.Text.Hex
import Retrieval.Text.Lines

namespace Retrieval.Text.CodeTable

def entries (rows : List String) : List (List Nat) :=
  (rows.flatMap fun row => Lines.splitOn ' ' row.toList).map Hex.numbers

/-- A set of characters: ascending ranges of code points, both ends included. -/
structure Ranges where
  bounds : Array (Nat × Nat)

def Ranges.ofRows (rows : List String) : Ranges :=
  ⟨((entries rows).filterMap fun
    | [a] => some (a, a)
    | [a, b] => some (a, b)
    | _ => none).toArray⟩

def Ranges.contains (t : Ranges) (c : Char) : Bool :=
  match t.bounds[Bisect.search t.bounds (fun r => r.2 < c.toNat)]? with
  | some r => r.1 ≤ c.toNat
  | none => false

structure Classes where
  bounds : Array (Nat × Nat × Nat)

def Classes.ofRows (rows : List String) : Classes :=
  ⟨((entries rows).filterMap fun
    | [a, b, k] => some (a, b, k)
    | _ => none).toArray⟩

def Classes.get (t : Classes) (c : Char) : Nat :=
  match t.bounds[Bisect.search t.bounds (fun r => r.2.1 < c.toNat)]? with
  | some r => if r.1 ≤ c.toNat then r.2.2 else 0
  | none => 0

/-- Every `step`-th character from `first` to `last` moves as far as `first` moves to `target`. -/
structure Shift where
  first : Nat
  last : Nat
  step : Nat
  target : Nat

structure Shifts where
  runs : Array Shift

def Shifts.ofRows (rows : List String) : Shifts :=
  ⟨((entries rows).filterMap fun
    | [a, b, s, t] => some ⟨a, b, s, t⟩
    | _ => none).toArray⟩

def Shifts.get (t : Shifts) (c : Char) : Char :=
  match t.runs[Bisect.search t.runs (fun r => r.last < c.toNat)]? with
  | some r =>
    if r.first ≤ c.toNat && (c.toNat - r.first) % r.step == 0 then
      Char.ofNat (r.target + (c.toNat - r.first))
    else c
  | none => c

structure Expansions where
  map : Std.TreeMap Nat (List Char)

def Expansions.ofRows (rows : List String) : Expansions :=
  ⟨.ofList ((entries rows).filterMap fun
    | [] => none
    | c :: cs => some (c, cs.map Char.ofNat))⟩

def Expansions.get? (t : Expansions) (c : Char) : Option (List Char) :=
  t.map[c.toNat]?

structure Pairs where
  map : Std.TreeMap Nat Char

def Pairs.key (a b : Nat) : Nat :=
  a * 0x110000 + b

def Pairs.ofRows (rows : List String) : Pairs :=
  ⟨.ofList ((entries rows).filterMap fun
    | [a, b, c] => some (key a b, Char.ofNat c)
    | _ => none)⟩

def Pairs.get? (t : Pairs) (a b : Char) : Option Char :=
  t.map[key a.toNat b.toNat]?

end Retrieval.Text.CodeTable
