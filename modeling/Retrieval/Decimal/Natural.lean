namespace Retrieval.Decimal

inductive NaturalError
  | empty
  | invalidDigit
  | tooLarge
  deriving DecidableEq, Repr

def NaturalError.message : NaturalError → String
  | empty => "cannot parse integer from empty string"
  | invalidDigit => "invalid digit found in string"
  | tooLarge => "number too large to fit in target type"

namespace Natural

def readDigits (limit : Nat) : Nat → List Char → Except NaturalError Nat
  | n, [] => .ok n
  | n, c :: cs =>
    if !c.isDigit then .error .invalidDigit
    else
      let m := n * 10 + (c.toNat - '0'.toNat)
      if limit ≤ m then .error .tooLarge else readDigits limit m cs

/-- The number below the limit that a text stands for; there may be a plus sign before it. -/
def parse (limit : Nat) (s : String) : Except NaturalError Nat :=
  match s.toList with
  | [] => .error .empty
  | '+' :: c :: cs => readDigits limit 0 (c :: cs)
  | cs => readDigits limit 0 cs

def wordLimit : Nat :=
  1 <<< 64

def word? (s : String) : Option Nat :=
  (parse wordLimit s).toOption

end Natural

end Retrieval.Decimal
