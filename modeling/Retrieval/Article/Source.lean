import Retrieval.Article.Basic
import Retrieval.Decimal.Natural
import Retrieval.Storage
import Retrieval.Text.Blank

namespace Retrieval.Article

open Json

inductive SourceError
  | missingInput (path : String)
  | opening (path : String)
  | reading (path : String)
  | parsing (path : String)
  | parsingLine (path : String) (line : Nat)
  | parsingEntry (path : String) (entry : Nat)
  | neitherObjectNorArray (path : String)
  | notStored (key : String)
  deriving DecidableEq, Repr

def SourceError.message : SourceError → String
  | missingInput path => "input path " ++ path ++ " does not exist"
  | opening path => "opening " ++ path
  | reading path => "reading " ++ path
  | parsing path => "parsing " ++ path
  | parsingLine path line => "parsing " ++ path ++ " line " ++ toString line
  | parsingEntry path entry => "parsing " ++ path ++ " entry " ++ toString entry
  | neitherObjectNorArray path => path ++ " is neither a JSON object nor an array"
  | notStored key => "no article stored under " ++ key

namespace Source

abbrev Keyed := String × Article

def numbered (path : String) (n : Nat) : String :=
  path ++ "#" ++ toString n

def isArticleFile (path : String) : Bool :=
  match Storage.extension? path with
  | some "json" | some "jsonl" => true
  | _ => false

/-- The files that a path stands for: itself, whatever its name, or the article files in a folder
and below it. -/
def collect (s : Storage) (path : String) : Except SourceError (List String) :=
  if (s.file? path).isSome then .ok [path]
  else if s.isFolder path then .ok ((s.walk path).filter isArticleFile)
  else .error (.missingInput path)

def ofLine? (line : String) : Option Article := do
  (ofTree (← Tree.ofText? line)).toOption

/-- An article on each line from the `n`-th on; blank lines count but hold none. -/
def readLines (path : String) : Nat → List (List UInt8) → Except SourceError (List Keyed)
  | _, [] => .ok []
  | n, bytes :: rest => do
    match String.fromUTF8? ⟨bytes.toArray⟩ with
    | none => .error (.reading path)
    | some line =>
      if line.toList.all Text.Blank.isBlank then readLines path (n + 1) rest
      else match ofLine? line with
        | none => .error (.parsingLine path (n + 1))
        | some a => return (numbered path n, a) :: (← readLines path (n + 1) rest)

def readItems (path : String) : Nat → List Tree → Except SourceError (List Keyed)
  | _, [] => .ok []
  | n, t :: ts =>
    match ofTree t with
    | .error _ => .error (.parsingEntry path n)
    | .ok a => do return (numbered path n, a) :: (← readItems path (n + 1) ts)

def readDocument (path : String) (content : ByteArray) : Except SourceError (List Keyed) :=
  match (String.fromUTF8? content).bind Tree.ofDocument? with
  | none => .error (.parsing path)
  | some (.array ts) => readItems path 0 ts
  | some (.object ms) =>
    match ofTree (.object ms) with
    | .error _ => .error (.parsing path)
    | .ok a => .ok [(path, a)]
  | some _ => .error (.neitherObjectNorArray path)

def read (s : Storage) (path : String) : Except SourceError (List Keyed) :=
  let byLines := Storage.extension? path == some "jsonl"
  match s.file? path with
  | some content =>
    if byLines then readLines path 0 (Text.Lines.splitOn 0x0A content.data.toList)
    else readDocument path content
  | none =>
    if s.isFolder path then .error (if byLines then .reading path else .parsing path)
    else .error (.opening path)

/-- The file that a key belongs to: what is before the last `#`, if a number follows that. -/
def file (key : String) : String :=
  match (Text.Lines.splitOn '#' key.toList).reverse with
  | n :: c :: cs =>
    if (Decimal.Natural.word? (String.ofList n)).isSome then
      String.ofList (List.intercalate ['#'] (c :: cs).reverse)
    else key
  | _ => key

def load (s : Storage) (key : String) : Except SourceError Article := do
  match (← read s (file key)).lookup key with
  | some a => return a
  | none => .error (.notStored key)

end Source

end Retrieval.Article
