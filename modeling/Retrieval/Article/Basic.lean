import Retrieval.Json.Record

namespace Retrieval

structure Article where
  title : String
  body : String
  author : Option String
  datetime : Option String
  subject : Option String
  url : Option String
  deriving DecidableEq, Repr

namespace Article

open Json

def indexableText (a : Article) : String :=
  a.title ++ " " ++ a.body

structure Draft where
  title : Option String
  body : Option String
  author : Option (Option String)
  datetime : Option (Option String)
  subject : Option (Option String)
  url : Option (Option String)

def Draft.put (d : Draft) (field : String) (t : Tree) : Except Refusal Draft := do
  match field with
  | "title" => return { d with title := ← Record.once d.title Tree.asText t }
  | "article" => return { d with body := ← Record.once d.body Tree.asText t }
  | "author" => return { d with author := ← Record.once d.author Tree.asOptionalText t }
  | "datetime" => return { d with datetime := ← Record.once d.datetime Tree.asOptionalText t }
  | "subject" => return { d with subject := ← Record.once d.subject Tree.asOptionalText t }
  | "url" => return { d with url := ← Record.once d.url Tree.asOptionalText t }
  | _ => return d

/-- Title and body are required. -/
def Draft.finish (d : Draft) : Except Refusal Article :=
  match d.title, d.body with
  | some title, some body =>
    .ok ⟨title, body, d.author.join, d.datetime.join, d.subject.join, d.url.join⟩
  | _, _ => .error .mismatched

def record : Record Draft where
  fields := ["title", "article", "author", "datetime", "subject", "url"]
  required := 2
  unread := ⟨none, none, none, none, none, none⟩
  put := Draft.put

def ofTree (t : Tree) : Except Refusal Article := do
  (← record.read t).finish

end Article

end Retrieval
