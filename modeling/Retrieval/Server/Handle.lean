import Retrieval.Server.Indexing
import Retrieval.Server.Reading

namespace Retrieval.Server

def perform (s : Server) (files : Storage) (r : Request) : Route → Response × Server
  | .indexBatch =>
    match s.indexBatch files r with
    | .ok (report, s) => (.ok report.toJson, s)
    | .error e => (.refuse e, s)
  | .cancelBatch =>
    match s.cancelBatch r with
    | .ok (cancelled, s) => (.ok (.object [("cancelled", .bool cancelled)]), s)
    | .error e => (.refuse e, s)
  | route =>
    let response := s.get files r route
    (if r.method == "HEAD" then response.withoutBody else response, s)

/-- Answers a request. The options of every path are open to anyone. -/
def handle (s : Server) (files : Storage) (r : Request) : Response × Server :=
  if r.method == "OPTIONS" then (⟨200, .text ""⟩, s)
  else match Route.ofPath? r.path with
    | none => (.refuse .unknownPath, s)
    | some route =>
      if route.allows r.method then s.perform files r route else (.refuse .methodNotAllowed, s)

end Retrieval.Server
