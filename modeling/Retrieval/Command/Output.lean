import Retrieval.Decimal.Fixed
import Retrieval.Json.Pretty
import Retrieval.Search.Basic
import Retrieval.Language

namespace Retrieval.Command

open Json Query Search

structure Report where
  query : String
  language : Language
  grammar : Grammar
  ranking : Ranking
  outcome : Outcome Float
  paths : List String

def hitJson (h : Hit Float) : Value :=
  .object [("doc_id", .nat h.docId.toNat), ("score", .real h.score)]

def Report.toJson (r : Report) (took : Option Float) : Value :=
  .object ([("query", .text r.query), ("language", .text r.language.name),
    ("grammar", .text r.grammar.name), ("ranking", .text r.ranking.name),
    ("total_hits", .nat r.outcome.totalHits), ("hits", .array (r.outcome.hits.map hitJson)),
    ("query_words", .texts r.outcome.queryWords.toList),
    ("relevant_terms", .texts r.outcome.relevantTerms.toList)] ++
    (took.map fun t => ("took_s", Value.real t)).toList ++
    [("paths", .texts r.paths)])

inductive Output
  | prompt
  | summary (total shown : Nat)
  | row (number : Nat) (h : Hit Float) (title path : String)
  | stats (v : Value)
  | report (r : Report)
  | error (message : String)

namespace Output

def rowText (number : Nat) (h : Hit Float) (title path : String) : String :=
  Decimal.Fixed.padLeft 3 ' ' (toString number) ++ ". [" ++
    Decimal.Fixed.padLeft 5 ' ' (toString h.docId.toNat) ++ "] " ++
    Decimal.Fixed.render 4 h.score ++ "  " ++ title ++ "  " ++ path ++ "\n"

/-- What appears on standard output, given the time that the search took and how to say it. -/
def text (took : Option Float) (said : String) : Output → String
  | prompt => "> "
  | summary total shown =>
    toString total ++ " hits in " ++ said ++ " (showing " ++ toString shown ++ ")\n"
  | row number h title path => rowText number h title path
  | stats v => v.pretty ++ "\n"
  | report r => (r.toJson took).pretty ++ "\n"
  | error _ => ""

def errorText : Output → String
  | error message => message ++ "\n"
  | _ => ""

end Output

end Retrieval.Command
