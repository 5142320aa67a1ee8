namespace Retrieval.Query

/-- The two ways to write a query: operators between their operands, as in `a & !b`, or in front
of a list of them, as in `&(a,!(b))`. -/
inductive Grammar
  | infixed
  | functional
  deriving DecidableEq, Repr

inductive Token
  | ident (text : String)
  | and
  | or
  | not
  | leftParen
  | rightParen
  | comma
  | boundary
  deriving DecidableEq, Repr

namespace Token

def display : Token → String
  | ident text => "'" ++ text ++ "'"
  | and => "&"
  | or => "|"
  | not => "!"
  | leftParen => "("
  | rightParen => ")"
  | comma => ","
  | boundary => "%"

/-- The operator that lacks an operand: all but the binary ones count as `!`. -/
def operator : Token → Token
  | and => and
  | or => or
  | _ => not

def isOperator : Token → Bool
  | and | or | not => true
  | _ => false

end Token

inductive QueryError
  | empty
  | missingLeftParen
  | missingRightParen
  | missingStartBoundary
  | missingEndBoundary
  | incomplete
  | invalidClause
  | trailingInput
  | unexpectedToken (token : Token)
  | tooFewOperands (operator : Token)
  | tooManyOperands (count : Nat)
  | tooDeep
  deriving DecidableEq, Repr

def QueryError.message : QueryError → String
  | empty => "Query cannot be empty"
  | missingLeftParen => "Missing ("
  | missingRightParen => "Missing )"
  | missingStartBoundary => "Missing starting symbol"
  | missingEndBoundary => "Missing trailing symbol"
  | incomplete => "Query is incomplete"
  | invalidClause => "Invalid clause"
  | trailingInput => "Query has not been fully parsed"
  | unexpectedToken t => "Unexpected token " ++ t.display
  | tooFewOperands t => "Operator " ++ t.display ++ " is missing an operand"
  | tooManyOperands n => s!"Too many operands ({n} left without an operator)"
  | tooDeep => "Query is nested too deeply"

/-- Tokens of a query with a place in them. -/
structure TokenStream where
  read : List Token
  unread : List Token
  deriving DecidableEq, Repr

namespace TokenStream

def ofList (ts : List Token) : TokenStream :=
  ⟨[], ts⟩

def toList (s : TokenStream) : List Token :=
  s.read.reverse ++ s.unread

def next? (s : TokenStream) : Option Token × TokenStream :=
  match s.unread with
  | [] => (none, s)
  | t :: ts => (some t, ⟨t :: s.read, ts⟩)

def peek? (s : TokenStream) : Option Token :=
  s.unread.head?

def hasNext (s : TokenStream) : Bool :=
  !s.unread.isEmpty

def size (s : TokenStream) : Nat :=
  s.toList.length

def isEmpty (s : TokenStream) : Bool :=
  s.toList.isEmpty

def readAll (s : TokenStream) : List Token × TokenStream :=
  (s.unread, ⟨s.unread.reverse ++ s.read, []⟩)

def rewind (s : TokenStream) : TokenStream :=
  ofList s.toList

end TokenStream

end Retrieval.Query
