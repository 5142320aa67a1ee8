import Retrieval.Query.Compiled
import Retrieval.Search.Ranking

namespace Retrieval.Search

open Index Query

structure Outcome (R : Type) where
  totalHits : Nat
  hits : List (Hit R)
  queryWords : WordSet
  relevantTerms : WordSet

/-- Stop words do not count for ranking. The terms are a set, in which it does not show how the
words have been gone through. -/
def relevantTerms (ix : Index) (words : WordSet) : WordSet :=
  .ofList ((words.toList.filter fun w => !ix.preprocessor.isStopWord w).map ix.preprocessor.term)

variable {R : Type} (A : Arithmetic R)

/-- The documents that a query asks for, ranked; of them the first `limit` if there is one. -/
def search (ix : Index) (query : String) (g : Grammar) (r : Ranking) (limit : Option Nat)
    (en : Enumeration := .ofLimit limit) : Except QueryError (Outcome R) := do
  let q ← g.compile query
  let words := q.relevantWords
  let terms := relevantTerms ix words
  let hits := rank A ix (q.evaluate ix) terms r en
  return {
    totalHits := hits.length
    hits := match limit with
      | some k => hits.take k
      | none => hits
    queryWords := words
    relevantTerms := terms }

end Retrieval.Search
