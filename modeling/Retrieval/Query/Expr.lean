namespace Retrieval.Query

inductive Expr
  | term (text : String)
  | all (operands : List Expr)
  | any (operands : List Expr)
  | not (operand : Expr)
  deriving Repr

namespace Expr

def maxDepth : Nat := 256

/-- Both operands; a conjunction on the left takes the right one in. -/
def and : Expr → Expr → Expr
  | .all es, e => .all (es ++ [e])
  | e, e' => .all [e, e']

def or : Expr → Expr → Expr
  | .any es, e => .any (es ++ [e])
  | e, e' => .any [e, e']

mutual

def display : Expr → String
  | .term text => text
  | .all es => "&(" ++ displayList es ++ ")"
  | .any es => "|(" ++ displayList es ++ ")"
  | .not e => "!(" ++ display e ++ ")"

def displayList : List Expr → String
  | [] => ""
  | [e] => display e
  | e :: es => display e ++ "," ++ displayList es

end

end Expr

end Retrieval.Query
