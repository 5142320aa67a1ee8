import Retrieval.Name
import Retrieval.Query.Infixed
import Retrieval.Query.Functional
import Retrieval.Query.Evaluation
import Retrieval.Query.RelevantWords

namespace Retrieval.Query

namespace Grammar

def name : Grammar → String
  | infixed => "infix"
  | functional => "prefix"

def ofName (s : String) : Except UnknownName Grammar :=
  match lowerAscii s with
  | "infix" => .ok infixed
  | "prefix" => .ok functional
  | other => .error (.grammar other)

def ofExactName? : String → Option Grammar
  | "infix" => some infixed
  | "prefix" => some functional
  | _ => none

end Grammar

structure Compiled where
  grammar : Grammar
  expr : Expr
  tokens : TokenStream

def Grammar.compile (g : Grammar) (query : String) : Except QueryError Compiled := do
  let (e, ts) ← match g with
    | .infixed => Infixed.parse query
    | .functional => Functional.parse query
  return ⟨g, e, ts⟩

namespace Compiled

def evaluate (q : Compiled) (ix : Index) : Index.DocList :=
  q.expr.evaluate ix

def relevantWords (q : Compiled) : Index.WordSet :=
  q.tokens.relevantWords.1

end Compiled

/-- Queries one after the other, with the error of the last call and the words of the last
successful search. -/
structure Session where
  grammar : Grammar
  lastError : Option QueryError
  relevantWords : Index.WordSet

namespace Session

def start (g : Grammar) : Session :=
  ⟨g, none, ∅⟩

def compile (s : Session) (query : String) : Except QueryError Compiled × Session :=
  match s.grammar.compile query with
  | .ok q => (.ok q, { s with lastError := none })
  | .error e => (.error e, { s with lastError := some e })

def isValid (s : Session) (query : String) : Bool × Session :=
  let (result, s) := s.compile query
  (result.isOk, s)

def search (s : Session) (ix : Index) (query : String) :
    Except QueryError Index.DocList × Session :=
  match s.compile query with
  | (.error e, s) => (.error e, s)
  | (.ok q, s) => (.ok (q.evaluate ix), { s with relevantWords := q.relevantWords })

def errorMessage (s : Session) : Option String :=
  s.lastError.map QueryError.message

end Session

end Retrieval.Query
