import Retrieval.Index.Basic

namespace Retrieval.Index

/-- The operations that scores are computed with, for numbers of any kind. -/
structure Arithmetic (R : Type) where
  ofNat : Nat → R
  add : R → R → R
  mul : R → R → R
  div : R → R → R
  ln : R → R
  sqrt : R → R
  isZero : R → Bool
  lt : R → R → Bool

def Arithmetic.float : Arithmetic Float where
  ofNat := Float.ofNat
  add := (· + ·)
  mul := (· * ·)
  div := (· / ·)
  ln := Float.log
  sqrt := Float.sqrt
  isZero := (· == 0)
  lt x y := x < y

abbrev WordSet := Std.TreeSet String

/-- An order in which the words of a set are gone through. The set itself has none. -/
structure WordOrder where
  list : WordSet → List String
  perm : ∀ ws, (list ws).Perm ws.toList

namespace WordOrder

def ascending : WordOrder :=
  ⟨fun ws => ws.toList, fun _ => .rfl⟩

def descending : WordOrder :=
  ⟨fun ws => ws.toList.reverse, fun ws => ws.toList.reverse_perm⟩

end WordOrder

variable {R : Type} (A : Arithmetic R) (ix : Index)

def documentFrequency (term : String) : Nat :=
  match ix.postings[term]? with
  | some l => l.size
  | none => 0

/-- Rarer terms weigh more; one that no document has weighs nothing. -/
def inverseFrequency (term : String) : R :=
  let df := ix.documentFrequency term
  if df = 0 then A.ofNat 0 else A.ln (A.div (A.ofNat ix.bags.size) (A.ofNat df))

def termWeight (n : Nat) : R :=
  if 0 < n then A.add (A.ofNat 1) (A.ln (A.ofNat n)) else A.ofNat 0

def weight (b : Bag) (term : String) : R :=
  A.mul (termWeight A (b.occurrences term)) (inverseFrequency A ix term)

/-- The weights in a document of the terms that a query asks for, added up in some order: with
rounding the sum depends on it. -/
def additiveScore (d : DocId) (terms : WordSet) (o : WordOrder := .ascending) : R :=
  match ix.bags[d]? with
  | none => A.ofNat 0
  | some b => (o.list terms).foldl (fun s t => A.add s (weight A ix b t)) (A.ofNat 0)

structure Products (R : Type) where
  dot : R
  document : R
  query : R

def products (b q : Bag) (terms : List String) : Products R :=
  terms.foldl (fun p t =>
    let x := weight A ix b t
    let y := weight A ix q t
    ⟨A.add p.dot (A.mul x y), A.add p.document (A.mul x x), A.add p.query (A.mul y y)⟩)
    ⟨A.ofNat 0, A.ofNat 0, A.ofNat 0⟩

/-- The cosine of the angle between the weights of a document and those of a query, zero if one of
the two has no weight. The products are added up in some order of the terms of both. -/
def cosineScore (d : DocId) (terms : WordSet) (o : WordOrder := .ascending) : R :=
  match ix.bags[d]? with
  | none => A.ofNat 0
  | some b =>
    let q := Bag.ofTerms terms.toList
    let p := products A ix b q (o.list (.ofList (b.terms ++ q.terms)))
    if A.isZero p.document || A.isZero p.query then A.ofNat 0
    else A.div p.dot (A.mul (A.sqrt p.document) (A.sqrt p.query))

end Retrieval.Index
