import Retrieval.Decimal.Natural
import Retrieval.Decimal.Round

namespace Retrieval.Json

open Decimal

/-- A number as it is written: its digits before and after the point, and its exponent. -/
structure Number where
  negative : Bool
  whole : List Nat
  fraction : Option (List Nat)
  exponent : Option Int
  deriving DecidableEq, Repr

namespace Number

def ofDigits (ds : List Nat) : Nat :=
  ds.foldl (fun n d => n * 10 + d) 0

def natural? (n : Number) : Option Nat :=
  match n.negative, n.fraction, n.exponent with
  | false, none, none => some (ofDigits n.whole)
  | _, _, _ => none

def takeDigits (n : Nat) : List Nat → Nat × Nat
  | [] => (n, 0)
  | d :: ds =>
    if n * 10 + d < Natural.wordLimit then
      let (m, k) := takeDigits (n * 10 + d) ds
      (m, k + 1)
    else (n, 0)

/-- Whether a double comes close to the number. Digits beyond a 64-bit word do not count; the
remaining ones and the power of ten are rounded before they are multiplied. -/
def isFinite (n : Number) : Bool :=
  let (w, used) := takeDigits 0 n.whole
  let (m, places) := takeDigits w (n.fraction.getD [])
  let e : Int := n.exponent.getD 0 + (n.whole.length - used : Nat) - (places : Nat)
  m == 0 || e < 0 || (e ≤ 308 && nearestDouble m * nearestDouble (Nat.pow 10 e.toNat) < doubleLimit)

def digit (c : Char) : Nat :=
  c.toNat - '0'.toNat

def digits (cs : List Char) : List Nat :=
  (cs.takeWhile Char.isDigit).map digit

def readFraction : List Char → Option (Option (List Nat) × Nat)
  | '.' :: cs =>
    match digits cs with
    | [] => none
    | ds => some (some ds, ds.length + 1)
  | _ => some (none, 0)

def readSign : List Char → Bool × Nat
  | '-' :: _ => (true, 1)
  | '+' :: _ => (false, 1)
  | _ => (false, 0)

def readExponent : List Char → Option (Option Int × Nat)
  | c :: cs =>
    if c == 'e' || c == 'E' then
      let (negative, n) := readSign cs
      match digits (cs.drop n) with
      | [] => none
      | ds =>
        let e : Int := ofDigits ds
        some (some (if negative then -e else e), n + ds.length + 1)
    else some (none, 0)
  | [] => some (none, 0)

/-- The number at the start of a text, and the number of its characters. Only the number zero
starts with a zero. -/
def read? (cs : List Char) : Option (Number × Nat) :=
  let (negative, n) := match cs with
    | '-' :: _ => (true, 1)
    | _ => (false, 0)
  match digits (cs.drop n) with
  | [] | 0 :: _ :: _ => none
  | whole =>
    let n := n + whole.length
    match readFraction (cs.drop n) with
    | none => none
    | some (fraction, k) =>
      match readExponent (cs.drop (n + k)) with
      | none => none
      | some (exponent, l) => some (⟨negative, whole, fraction, exponent⟩, n + k + l)

end Number

end Retrieval.Json
