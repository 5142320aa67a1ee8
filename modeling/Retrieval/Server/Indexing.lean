import Retrieval.Batch
import Retrieval.Server.Basic
import Retrieval.Server.MediaType
import Retrieval.Server.Parameters

namespace Retrieval.Server

def bodyLimit : Nat := 2_097_152

/-- The body as a batch request, if it is said to be JSON and is not too large. -/
def batchRequest (r : Request) : Except Refusal BatchRequest :=
  if !((r.header? "content-type").bind MediaType.parse?).any MediaType.isJson then .error .notJson
  else if bodyLimit < r.body.utf8ByteSize then .error .bodyTooLarge
  else (BatchRequest.ofText r.body).mapError fun
    | .malformed => .malformedBody
    | .mismatched => .mismatchedBody

def detector? (s : Server) : Option String → Except Refusal Detector
  | none | some "auto" => .ok s.detector
  | some name => ((Language.ofName name).map .fixed).mapError .unknownLanguage

def plan (s : Server) (files : Storage) (b : BatchRequest) :
    Except Refusal (Detector × List Batch.Entry) := do
  let detect ← s.detector? b.language
  let paths ← (b.paths.mapM (Article.Source.collect files)).mapError .missingInput
  return (detect, Batch.entries files paths.flatten)

/-- Runs a batch from its start to its end, unless another one runs. -/
def runBatch (s : Server) (files : Storage) (detect : Detector) (es : List Batch.Entry) :
    Except Refusal (Batch.Report × Server) :=
  match s.flags.start? with
  | none => .error .batchRunning
  | some (flag, flags) =>
    let (report, catalog) :=
      Batch.run (fun _ => flags.isRaised flag) detect (s.catalog.on files) es
    .ok (report, { s with catalog := catalog, flags := flags.finish })

/-- The body is read before anything else is looked at. -/
def indexBatch (s : Server) (files : Storage) (r : Request) :
    Except Refusal (Batch.Report × Server) := do
  let b ← batchRequest r
  s.authorize r
  let (detect, es) ← s.plan files b
  s.runBatch files detect es

def cancelBatch (s : Server) (r : Request) : Except Refusal (Bool × Server) := do
  s.authorize r
  let (cancelled, flags) := s.flags.cancel
  return (cancelled, { s with flags := flags })

end Retrieval.Server
