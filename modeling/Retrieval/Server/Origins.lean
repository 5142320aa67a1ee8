import Retrieval.Server.Message
import Retrieval.Text.Blank
import Retrieval.Text.Lines

namespace Retrieval.Server

inductive Origins
  | any
  | list (origins : List String)
  deriving DecidableEq, Repr

namespace Origins

/-- Whether a text can be sent in a header: it has no control characters but tabs. -/
def isSendable (s : String) : Bool :=
  s.toList.all fun c => (0x20 ≤ c.toNat && c != '\x7f') || c == '\t'

/-- A list with commas in it; any origin if there is none. -/
def ofSetting : Option String → Origins
  | none => any
  | some s =>
    let origins := (Text.Lines.splitOn ',' s.toList).map fun o => String.ofList (Text.Blank.trim o)
    match origins.filter isSendable with
    | [] => any
    | origins => list origins

def allowed (o : Origins) (r : Request) : Option String :=
  match o with
  | any => some "*"
  | list origins => (r.header? "origin").filter origins.contains

end Origins

end Retrieval.Server
