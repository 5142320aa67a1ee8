import Retrieval.Article.Source
import Retrieval.Catalog

namespace Retrieval

namespace Batch

inductive Entry
  | article (key : String) (a : Article)
  | unreadable
  deriving DecidableEq, Repr

structure Report where
  processed : Nat
  indexed : Nat
  duplicates : Nat
  failed : Nat
  unsupported : Nat
  cancelled : Bool
  deriving DecidableEq, Repr

def Report.none : Report :=
  ⟨0, 0, 0, 0, 0, false⟩

/-- A file that cannot be read is one unreadable entry. -/
def entries (s : Storage) (paths : List String) : List Entry :=
  paths.flatMap fun path =>
    match Article.Source.read s path with
    | .ok articles => articles.map fun (key, a) => .article key a
    | .error _ => [.unreadable]

def step (detect : Detector) (r : Report) (c : Catalog) : Entry → Report × Catalog
  | .unreadable => ({ r with processed := r.processed + 1, failed := r.failed + 1 }, c)
  | .article key a =>
    let r := { r with processed := r.processed + 1 }
    match detect a.indexableText with
    | none => ({ r with unsupported := r.unsupported + 1 }, c)
    | some l =>
      match c.addArticle l a key with
      | (c, true) => ({ r with indexed := r.indexed + 1 }, c)
      | (c, false) => ({ r with duplicates := r.duplicates + 1 }, c)

/-- Handles entries until none is left or the batch finds that it is cancelled, which it looks for
before the `n`-th entry. -/
def runFrom (cancelled : Nat → Bool) (detect : Detector) (n : Nat) (r : Report) (c : Catalog) :
    List Entry → Report × Catalog
  | [] => (r, c)
  | e :: es =>
    if cancelled n then ({ r with cancelled := true }, c)
    else
      let (r, c) := step detect r c e
      runFrom cancelled detect (n + 1) r c es

def run (cancelled : Nat → Bool) (detect : Detector) (c : Catalog) (es : List Entry) :
    Report × Catalog :=
  runFrom cancelled detect 0 .none c es

def runAll (detect : Detector) (c : Catalog) (es : List Entry) : Report × Catalog :=
  run (fun _ => false) detect c es

end Batch

end Retrieval
