namespace Retrieval.Decimal

/-- The quotient to the nearest whole number; a half goes to the even neighbour. -/
def roundDiv (n d : Nat) : Nat :=
  let q := n / d
  let r := n % d
  if 2 * r < d then q
  else if d < 2 * r then q + 1
  else q + q % 2

def nearestDouble (n : Nat) : Nat :=
  let unit := 1 <<< (n.log2 + 1 - 53)
  roundDiv n unit * unit

/-- What lies at or above this rounds to infinity. -/
def doubleLimit : Nat :=
  (1 <<< 1024) - (1 <<< 970)

end Retrieval.Decimal
