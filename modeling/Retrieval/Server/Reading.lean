import Retrieval.Decimal.Natural
import Retrieval.Server.Basic
import Retrieval.Server.Excerpt
import Retrieval.Server.Parameters
import Retrieval.Server.Route
import Retrieval.Summary

namespace Retrieval.Server

open Json Search

/-- A hit with what its article says now, if that can still be read. -/
def hitJson (files : Storage) (ix : Index) (words : List String) (h : Hit Float) : Value :=
  let path := (ix.filePath h.docId).toOption.getD ""
  let article := (Article.Source.load files path).toOption
  .object [("doc_id", .nat h.docId.toNat), ("score", .real h.score), ("path", .text path),
    ("title", .ofOption (fun a : Article => .text a.title) article),
    ("url", .ofOption .text (article.bind Article.url)),
    ("snippet", .ofOption .text (article.bind fun a => Excerpt.ofText? a.body words))]

def outcomeJson (files : Storage) (ix : Index) (p : SearchParameters) (l : Language) (r : Ranking)
    (o : Outcome Float) : Value :=
  .object [("query", .text p.query), ("language", .text l.name), ("grammar", .text p.grammar.name),
    ("ranking", .text r.name), ("total_hits", .nat o.totalHits),
    ("relevant_terms", .texts o.relevantTerms.toList),
    ("results", .array (o.hits.map (hitJson files ix o.queryWords.toList)))]

def search (s : Server) (files : Storage) (p : SearchParameters) : Except Refusal Value := do
  let l ← (Language.ofName p.language).mapError .unknownLanguage
  match s.catalog.index? l with
  | none => .error (.noIndex l)
  | some ix =>
    let config := s.catalog.config
    let ranking := p.ranking.getD config.ranking
    let limit := config.clampTopK p.limit
    let o ← (Search.search .float ix p.query p.grammar ranking (some limit)).mapError .invalidQuery
    return outcomeJson files ix p l ranking o

def documentJson (files : Storage) (l : Language) (d : Index.DocId) (path : String) : Value :=
  let article := (Article.Source.load files path).toOption
  .object ([("doc_id", .nat d.toNat), ("language", .text l.name), ("path", .text path)] ++
    (article.map Article.members).getD [])

def document (s : Server) (files : Storage) (language : String) (d : Index.DocId) :
    Except Refusal Value := do
  let l ← (Language.ofName language).mapError .unknownLanguage
  match s.catalog.index? l with
  | none => .error .noDocuments
  | some ix => return documentJson files l d (← (ix.filePath d).mapError .unknownDocument)

def documentId? (part : String) : Option Index.DocId :=
  ((Decimal.Natural.parse UInt32.size part).toOption).map Nat.toUInt32

def get (s : Server) (files : Storage) (r : Request) : Route → Response
  | .health => ⟨200, .text "ok"⟩
  | .search =>
    match SearchParameters.ofQuery? r.query with
    | none => .refuse .invalidParameters
    | some p => .ofResult (s.search files p)
  | .document language id =>
    match Route.decode? language, (Route.decode? id).bind documentId? with
    | some language, some d => .ofResult (s.document files language d)
    | _, _ => .refuse .invalidParameters
  | .stats => .ok s.catalog.statsJson
  | .indexBatch | .cancelBatch => .refuse .methodNotAllowed

end Retrieval.Server
