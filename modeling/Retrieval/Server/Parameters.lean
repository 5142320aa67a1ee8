import Retrieval.Decimal.Natural
import Retrieval.Json.Record
import Retrieval.Search.Basic

namespace Retrieval.Server

open Json Query Search

structure SearchParameters where
  query : String
  language : String
  grammar : Grammar
  ranking : Option Ranking
  limit : Option Nat
  deriving Repr

namespace SearchParameters

/-- The value of a parameter, which may be given once at most. -/
def single? (query : List (String × String)) (name : String) : Option (Option String) :=
  match query.filter (·.1 == name) with
  | [] => some none
  | [(_, v)] => some (some v)
  | _ => none

def optional? {α : Type} (read : String → Option α) (query : List (String × String))
    (name : String) : Option (Option α) := do
  match ← single? query name with
  | none => some none
  | some v => (read v).map some

/-- Other parameters do not count. -/
def ofQuery? (query : List (String × String)) : Option SearchParameters := do
  return {
    query := ← (← single? query "q")
    language := (← single? query "lang").getD "en"
    grammar := (← optional? Grammar.ofExactName? query "grammar").getD .functional
    ranking := ← optional? Ranking.ofExactName? query "ranking"
    limit := ← optional? Decimal.Natural.word? query "k" }

end SearchParameters

structure BatchRequest where
  paths : List String
  language : Option String
  deriving DecidableEq, Repr

namespace BatchRequest

structure Draft where
  paths : Option (List String)
  language : Option (Option String)

def Draft.put (d : Draft) (field : String) (t : Tree) : Except Refusal Draft := do
  match field with
  | "paths" => return { d with paths := ← Record.once d.paths Tree.asTexts t }
  | "language" => return { d with language := ← Record.once d.language Tree.asOptionalText t }
  | _ => return d

def Draft.finish (d : Draft) : Except Refusal BatchRequest :=
  match d.paths with
  | some paths => .ok ⟨paths, d.language.join⟩
  | none => .error .mismatched

def record : Record Draft where
  fields := ["paths", "language"]
  required := 2
  unread := ⟨none, none⟩
  put := Draft.put

/-- The request at the start of a text, whatever follows it. -/
def ofText (text : String) : Except Refusal BatchRequest := do
  (← record.read (Tree.ofStart text)).finish

end BatchRequest

end Retrieval.Server
