import Std.Data.TreeMap
import Std.Data.TreeSet
import Retrieval.Terms.Preprocessor
import Retrieval.Index.PostingList
import Retrieval.Index.Bag

namespace Retrieval

open Terms Index

structure Index.Stats where
  documents : Nat
  terms : Nat
  tokens : Nat
  deriving DecidableEq, Repr

structure Index where
  preprocessor : Preprocessor
  postings : Std.TreeMap String PostingList
  bags : Std.TreeMap DocId Bag
  filePaths : Std.TreeMap DocId String
  seenPaths : Std.TreeSet String
  nextId : DocId
  documentCount : Nat
  termCount : Nat
  tokenCount : Nat

namespace Index

def empty (p : Preprocessor) : Index where
  preprocessor := p
  postings := ∅
  bags := ∅
  filePaths := ∅
  seenPaths := ∅
  nextId := 0
  documentCount := 0
  termCount := 0
  tokenCount := 0

/-- Counts one occurrence of a term in a document. The first path of a document stays. -/
def addOccurrence (ix : Index) (term : String) (d : DocId) (path : String) : Index :=
  { ix with
    postings := ix.postings.insert term ((ix.postings[term]?.getD .empty).add d).1
    termCount := if term ∈ ix.postings then ix.termCount else ix.termCount + 1
    filePaths := ix.filePaths.insertIfNew d path
    bags := ix.bags.insert d ((ix.bags[d]?.getD .empty).add term 1)
    tokenCount := ix.tokenCount + 1
    nextId := if d < ix.nextId then ix.nextId else DocId.next d }

def register (ix : Index) (path : String) : Index :=
  { ix with
    seenPaths := ix.seenPaths.insert path
    nextId := ix.nextId + 1
    filePaths := ix.filePaths.insert ix.nextId path }

/-- Whether a path can be indexed: it has not been before, and there is an id left. -/
def accepts (ix : Index) (path : String) : Bool :=
  path ∉ ix.seenPaths && ix.nextId != DocId.last

/-- Indexes a text under a fresh id, or refuses it and changes nothing. -/
def addText (ix : Index) (text path : String) : Index × Bool :=
  if ix.accepts path then
    let d := ix.nextId
    let added := (ix.preprocessor.terms text).foldl (fun i t => i.addOccurrence t d path)
      (ix.register path)
    ({ added with documentCount := added.documentCount + 1 }, true)
  else (ix, false)

def documents (ix : Index) (term : String) : DocList :=
  match ix.postings[term]? with
  | some l => l.docIds
  | none => .empty

def allDocuments (ix : Index) : DocList :=
  .ofAscending ix.bags.keys (by
    have h := Std.TreeMap.ordered_keys (t := ix.bags)
    exact h.imp Std.compare_eq_lt.1)

def stats (ix : Index) : Stats :=
  ⟨ix.documentCount, ix.termCount, ix.tokenCount⟩

inductive PathError
  | notIndexed (d : DocId)
  deriving DecidableEq, Repr

def PathError.message : PathError → String
  | .notIndexed d => s!"Document {d.toNat} has not been indexed yet"

def filePath (ix : Index) (d : DocId) : Except PathError String :=
  match ix.filePaths[d]? with
  | some p => .ok p
  | none => .error (.notIndexed d)

end Index

end Retrieval
