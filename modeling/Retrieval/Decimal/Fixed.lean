import Retrieval.Decimal.Binary
import Retrieval.Decimal.Round

namespace Retrieval.Decimal.Fixed

def scale (places : Nat) (b : Binary) : Nat :=
  roundDiv ((b.mantissa * Nat.pow 10 places) <<< b.exponent.toNat) (1 <<< (-b.exponent).toNat)

def padLeft (width : Nat) (c : Char) (s : String) : String :=
  String.ofList (List.replicate (width - s.length) c) ++ s

def unsigned (places n : Nat) : String :=
  if places = 0 then toString n
  else
    let whole := toString (n / Nat.pow 10 places)
    whole ++ "." ++ padLeft places '0' (toString (n % Nat.pow 10 places))

/-- A double with so many decimal places. Zero keeps its sign. -/
def render (places : Nat) (x : Float) : String :=
  match Binary.ofFloat? x with
  | some b => (if b.negative then "-" else "") ++ unsigned places (scale places b)
  | none => if x.isNaN then "NaN" else if x < 0 then "-inf" else "inf"

end Retrieval.Decimal.Fixed
