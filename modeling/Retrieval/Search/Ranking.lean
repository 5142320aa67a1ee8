import Retrieval.Name
import Retrieval.Index.Weight

namespace Retrieval.Search

open Index

/-- The orders in which one search happens to go through its sets. The next search, be it of the
same query, may go through the same sets in others. -/
structure Enumeration where
  terms : WordOrder
  /-- Of the words by which a document is compared with the query, a set of its own for each. -/
  vocabulary : DocId → WordOrder

namespace Enumeration

def ascending : Enumeration :=
  ⟨.ascending, fun _ => .ascending⟩

def descending : Enumeration :=
  ⟨.descending, fun _ => .descending⟩

/-- Orders for a search to be run in where none are given. Like any two searches, one with a limit
and one without need not have the same. -/
def ofLimit : Option Nat → Enumeration
  | none => ascending
  | some _ => descending

end Enumeration

inductive Ranking
  | none
  | additive
  | cosine
  deriving DecidableEq, Repr

namespace Ranking

def name : Ranking → String
  | none => "none"
  | additive => "tfidf"
  | cosine => "cosine"

def ofName (s : String) : Except UnknownName Ranking :=
  match lowerAscii s with
  | "none" => .ok none
  | "tfidf" | "tf-idf" => .ok additive
  | "cosine" => .ok cosine
  | other => .error (.ranking other)

def ofExactName? : String → Option Ranking
  | "none" => some none
  | "tfidf" => some additive
  | "cosine" => some cosine
  | _ => Option.none

variable {R : Type} (A : Arithmetic R) (ix : Index)

def score (r : Ranking) (terms : WordSet) (en : Enumeration) (d : DocId) : R :=
  if terms.isEmpty then A.ofNat 0
  else match r with
    | none => A.ofNat 0
    | additive => ix.additiveScore A d terms en.terms
    | cosine => ix.cosineScore A d terms (en.vocabulary d)

end Ranking

structure Hit (R : Type) where
  docId : DocId
  score : R

variable {R : Type} (A : Arithmetic R) (ix : Index)

/-- The documents by descending score; those with equal scores keep their order. -/
def rank (docs : DocList) (terms : WordSet) (r : Ranking) (en : Enumeration := .ascending) :
    List (Hit R) :=
  (docs.toList.map fun d => ⟨d, r.score A ix terms en d⟩).mergeSort
    fun a b => !A.lt a.score b.score

end Retrieval.Search
