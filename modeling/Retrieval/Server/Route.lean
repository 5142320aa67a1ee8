import Retrieval.Server.Message
import Retrieval.Text.Hex
import Retrieval.Text.Lines

namespace Retrieval.Server

inductive Route
  | health
  | search
  | document (language id : String)
  | stats
  | indexBatch
  | cancelBatch
  deriving DecidableEq, Repr

namespace Route

/-- What a path asks for. A part of it that stands for a value is not empty. -/
def ofPath? (path : String) : Option Route :=
  match (Text.Lines.splitOn '/' path.toList).map String.ofList with
  | ["", "health"] => some health
  | ["", "search"] => some search
  | ["", "doc", language, id] =>
    if language.isEmpty || id.isEmpty then none else some (document language id)
  | ["", "stats"] => some stats
  | ["", "index", "batch"] => some indexBatch
  | ["", "index", "cancel"] => some cancelBatch
  | _ => none

def isPost : Route → Bool
  | indexBatch | cancelBatch => true
  | _ => false

/-- Whether a method may be used; what can be got can be asked for without its body. -/
def allows (r : Route) (method : String) : Bool :=
  if r.isPost then method == "POST" else method == "GET" || method == "HEAD"

def decodeBytes : List Char → List UInt8
  | [] => []
  | '%' :: a :: b :: cs =>
    match Text.Hex.digit? a, Text.Hex.digit? b with
    | some x, some y => (x * 16 + y).toUInt8 :: decodeBytes cs
    | _, _ => '%'.toUInt8 :: decodeBytes (a :: b :: cs)
  | c :: cs => (String.singleton c).toUTF8.data.toList ++ decodeBytes cs

def decode? (part : String) : Option String :=
  String.fromUTF8? ⟨(decodeBytes part.toList).toArray⟩

end Route

end Retrieval.Server
