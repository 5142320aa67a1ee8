import Std.Data.TreeMap
import Std.Data.TreeSet

namespace Retrieval.Index

structure Bag where
  counts : Std.TreeMap String Nat

namespace Bag

def empty : Bag :=
  ⟨∅⟩

def occurrences (b : Bag) (term : String) : Nat :=
  b.counts[term]?.getD 0

def add (b : Bag) (term : String) (n : Nat) : Bag :=
  ⟨b.counts.insert term (b.occurrences term + n)⟩

/-- Every term once, as for a query. -/
def ofTerms (terms : List String) : Bag :=
  terms.foldl (fun b t => if b.occurrences t = 0 then b.add t 1 else b) empty

def toList (b : Bag) : List (String × Nat) :=
  b.counts.toList

def terms (b : Bag) : List String :=
  b.counts.keys

end Bag

end Retrieval.Index
