import Retrieval.Json.Value
import Retrieval.Name
import Retrieval.Server.Refusal

namespace Retrieval.Server

structure Request where
  method : String
  path : String
  query : List (String × String)
  headers : List (String × String)
  body : String
  deriving Repr

/-- A header by its name, whatever the case of that. -/
def Request.header? (r : Request) (name : String) : Option String :=
  (r.headers.find? fun h => lowerAscii h.1 == lowerAscii name).map Prod.snd

inductive Body
  | text (s : String)
  | json (v : Json.Value)

structure Response where
  status : Nat
  body : Body

namespace Response

def ok (v : Json.Value) : Response :=
  ⟨200, .json v⟩

def refuse (e : Refusal) : Response :=
  ⟨e.status, match e.message? with
    | some m => .json (.object [("error", .text m)])
    | none => .text ""⟩

def ofResult : Except Refusal Json.Value → Response
  | .ok v => ok v
  | .error e => refuse e

def withoutBody (r : Response) : Response :=
  { r with body := .text "" }

end Response

/-- Printable ASCII and the tab: what a header can be compared with. -/
def isHeaderText (s : String) : Bool :=
  s.toList.all fun c => (0x20 ≤ c.toNat && c.toNat < 0x7F) || c == '\t'

end Retrieval.Server
