namespace Retrieval.Text.Hex

def digit? (c : Char) : Option Nat :=
  if '0' ≤ c ∧ c ≤ '9' then some (c.toNat - '0'.toNat)
  else if 'a' ≤ c ∧ c ≤ 'f' then some (c.toNat - 'a'.toNat + 10)
  else if 'A' ≤ c ∧ c ≤ 'F' then some (c.toNat - 'A'.toNat + 10)
  else none

/-- The numbers of a text, whatever other characters stand between them. -/
def numbersFrom : Option Nat → List Char → List Nat
  | acc, [] => acc.toList
  | acc, c :: cs =>
    match digit? c with
    | some d => numbersFrom (some (acc.getD 0 * 16 + d)) cs
    | none => acc.toList ++ numbersFrom none cs

def numbers (cs : List Char) : List Nat :=
  numbersFrom none cs

end Retrieval.Text.Hex
