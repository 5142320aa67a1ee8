import Retrieval.Article.Source
import Retrieval.Catalog
import Retrieval.Query.Token

namespace Retrieval.Server

inductive Refusal
  | unknownPath
  | methodNotAllowed
  | invalidParameters
  | notJson
  | bodyTooLarge
  | malformedBody
  | mismatchedBody
  | noAdminToken
  | wrongAdminToken
  | unknownLanguage (e : UnknownName)
  | noIndex (l : Language)
  | noDocuments
  | unknownDocument (e : Index.PathError)
  | invalidQuery (e : Query.QueryError)
  | missingInput (e : Article.SourceError)
  | batchRunning
  deriving DecidableEq, Repr

namespace Refusal

def status : Refusal → Nat
  | unknownPath => 404
  | methodNotAllowed => 405
  | invalidParameters => 400
  | notJson => 415
  | bodyTooLarge => 413
  | malformedBody => 400
  | mismatchedBody => 422
  | noAdminToken => 401
  | wrongAdminToken => 401
  | unknownLanguage _ => 400
  | noIndex _ => 404
  | noDocuments => 404
  | unknownDocument _ => 404
  | invalidQuery _ => 400
  | missingInput _ => 400
  | batchRunning => 409

/-- What is told about it. Requests that cannot be made sense of are refused without a word. -/
def message? : Refusal → Option String
  | unknownPath | methodNotAllowed | invalidParameters => none
  | notJson | bodyTooLarge | malformedBody | mismatchedBody => none
  | noAdminToken => some "ADMIN_TOKEN not set"
  | wrongAdminToken => some "invalid admin token"
  | unknownLanguage e => some e.message
  | noIndex l => some (Catalog.missingIndex l)
  | noDocuments => some "not found"
  | unknownDocument e => some e.message
  | invalidQuery e => some e.message
  | missingInput e => some e.message
  | batchRunning => some "a batch is already running"

end Refusal

end Retrieval.Server
