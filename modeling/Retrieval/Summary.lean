import Retrieval.Batch
import Retrieval.Json.Value

namespace Retrieval

open Json

def Index.Stats.toJson (s : Index.Stats) : Value :=
  .object [("documents", .nat s.documents), ("terms", .nat s.terms), ("tokens", .nat s.tokens)]

def Catalog.statsJson (c : Catalog) : Value :=
  .object (c.stats.map fun (l, s) => (l.name, s.toJson))

def Batch.Report.toJson (r : Batch.Report) : Value :=
  .object [("processed", .nat r.processed), ("indexed", .nat r.indexed),
    ("duplicates", .nat r.duplicates), ("failed", .nat r.failed),
    ("unsupported", .nat r.unsupported), ("cancelled", .bool r.cancelled)]

def Article.members (a : Article) : List (String × Value) :=
  [("title", .text a.title), ("author", .ofOption .text a.author),
    ("datetime", .ofOption .text a.datetime), ("subject", .ofOption .text a.subject),
    ("url", .ofOption .text a.url), ("article", .text a.body)]

end Retrieval
