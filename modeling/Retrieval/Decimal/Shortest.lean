import Retrieval.Decimal.Binary
import Retrieval.Decimal.Round

namespace Retrieval.Decimal

structure Digits where
  digits : Nat
  exponent : Int
  deriving DecidableEq, Repr

namespace Shortest

structure Ratio where
  num : Nat
  den : Nat

def Ratio.scale (n base : Nat) (e : Int) : Ratio :=
  ⟨n * base.pow e.toNat, base.pow (-e).toNat⟩

/-- The numbers that round to a double: from `low` to `high`, the ends as well if `closed`, all
times a power of two. -/
structure Interval where
  low : Nat
  high : Nat
  exponent : Int
  closed : Bool

/-- Above a power of two the doubles lie twice as far apart as below. -/
def Interval.of (b : Binary) : Interval :=
  let below := if b.mantissa = 1 <<< 52 ∧ -1074 < b.exponent then 1 else 2
  ⟨4 * b.mantissa - below, 4 * b.mantissa + 2, b.exponent - 2, b.mantissa % 2 == 0⟩

def Interval.contains (i : Interval) (d : Digits) : Bool :=
  let low := Ratio.scale i.low 2 i.exponent
  let high := Ratio.scale i.high 2 i.exponent
  let x := Ratio.scale d.digits 10 d.exponent
  let l := low.num * x.den
  let l' := x.num * low.den
  let r := x.num * high.den
  let r' := high.num * x.den
  if i.closed then l ≤ l' && r ≤ r' else l < l' && r < r'

def nearest (b : Binary) (e : Int) : Digits :=
  let x := Ratio.scale b.mantissa 2 b.exponent
  let unit := Ratio.scale 1 10 e
  ⟨roundDiv (x.num * unit.den) (x.den * unit.num), e⟩

def length (n : Nat) : Nat :=
  (Nat.toDigits 10 n).length

/-- The first of the powers of ten, from `e` downwards, on whose multiples the double can be told
from its neighbours. -/
def search (b : Binary) : Nat → Int → Digits
  | 0, e => nearest b e
  | n + 1, e =>
    let d := nearest b e
    if d.digits != 0 && (Interval.of b).contains d then d else search b n (e - 1)

def dropZeros : Nat → Digits → Digits
  | 0, d => d
  | n + 1, d =>
    if d.digits % 10 = 0 ∧ d.digits ≠ 0 then dropZeros n ⟨d.digits / 10, d.exponent + 1⟩ else d

/-- The fewest digits that are read back as the same double; of several such numbers the one that
is nearest. -/
def digits (b : Binary) : Digits :=
  let x := Ratio.scale b.mantissa 2 b.exponent
  let above : Int := length (x.num / x.den)
  let below : Int := if x.num < x.den then length (x.den / x.num) else 0
  dropZeros 20 (search b 25 (above - below + 1))

def zeros (n : Nat) : String :=
  String.ofList (List.replicate n '0')

/-- Digits with a point after the first `k` of them: positional for five places before the digits
to sixteen places after their start, else with an exponent. -/
def place (d : Digits) : String :=
  let ds := toString d.digits
  let n := ds.length
  let k : Int := n + d.exponent
  if 0 ≤ d.exponent ∧ k ≤ 16 then ds ++ zeros d.exponent.toNat ++ ".0"
  else if 0 < k ∧ k ≤ 16 then (ds.take k.toNat).toString ++ "." ++ (ds.drop k.toNat).toString
  else if -5 < k ∧ k ≤ 0 then "0." ++ zeros (-k).toNat ++ ds
  else
    (ds.take 1).toString ++ (if n = 1 then "" else "." ++ (ds.drop 1).toString) ++ "e" ++
      toString (k - 1)

def render? (x : Float) : Option String :=
  (Binary.ofFloat? x).map fun b =>
    (if b.negative then "-" else "") ++ (if b.mantissa = 0 then "0.0" else place (digits b))

end Shortest

end Retrieval.Decimal
