import Retrieval.Decimal.Shortest
import Retrieval.Json.Value

namespace Retrieval.Json.Value

def indent (depth : Nat) : String :=
  "\n" ++ String.ofList (List.replicate (2 * depth) ' ')

mutual

def prettyAt (depth : Nat) : Value → String
  | null => "null"
  | bool b => if b then "true" else "false"
  | nat n => toString n
  | real x => (Decimal.Shortest.render? x).getD "null"
  | text s => Quoted.render s
  | array [] => "[]"
  | array vs => "[" ++ prettyItems (depth + 1) vs ++ indent depth ++ "]"
  | object [] => "\x7b\x7d"
  | object ms => "\x7b" ++ prettyMembers (depth + 1) ms ++ indent depth ++ "\x7d"

def prettyItems (depth : Nat) : List Value → String
  | [] => ""
  | [v] => indent depth ++ prettyAt depth v
  | v :: vs => indent depth ++ prettyAt depth v ++ "," ++ prettyItems depth vs

def prettyMembers (depth : Nat) : List (String × Value) → String
  | [] => ""
  | [(k, v)] => indent depth ++ Quoted.render k ++ ": " ++ prettyAt depth v
  | (k, v) :: ms =>
    indent depth ++ Quoted.render k ++ ": " ++ prettyAt depth v ++ "," ++ prettyMembers depth ms

end

def pretty (v : Value) : String :=
  v.prettyAt 0

end Retrieval.Json.Value
