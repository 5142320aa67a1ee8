import Retrieval.Json.Quoted

namespace Retrieval.Json

/-- A value to be written. The members of an object keep their order. -/
inductive Value
  | null
  | bool (b : Bool)
  | nat (n : Nat)
  | real (x : Float)
  | text (s : String)
  | array (items : List Value)
  | object (members : List (String × Value))

namespace Value

def ofOption {α : Type} (f : α → Value) : Option α → Value
  | some a => f a
  | none => null

def texts (l : List String) : Value :=
  array (l.map text)

end Value

end Retrieval.Json
