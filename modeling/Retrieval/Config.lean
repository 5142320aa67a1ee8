import Retrieval.Json.Record
import Retrieval.Language
import Retrieval.Search.Ranking
import Retrieval.Storage

namespace Retrieval

open Json Search

structure Config where
  /-- Lists of stop words that replace the ones of the languages. -/
  englishStopWords : Option String
  czechStopWords : Option String
  ranking : Ranking
  topK : Nat
  deriving DecidableEq, Repr

namespace Config

def default : Config :=
  ⟨none, none, .additive, 10⟩

def maxTopK : Nat := 100

def stopWordsPath (c : Config) : Language → Option String
  | .english => c.englishStopWords
  | .czech => c.czechStopWords

/-- The number of hits to show, which is from one to `maxTopK`. -/
def clampTopK (c : Config) (requested : Option Nat) : Nat :=
  min (max (requested.getD c.topK) 1) maxTopK

/-- A ranking's name, alone or as the key of nothing. -/
def readRanking (t : Tree) : Except Refusal Ranking :=
  let name? := match t with
    | .text s | .object [(s, .null)] => s
    | _ => none
  match name?.bind Ranking.ofExactName? with
  | some r => .ok r
  | none => .error t.refusal

structure Draft where
  englishStopWords : Option (Option String)
  czechStopWords : Option (Option String)
  ranking : Option Ranking
  topK : Option Nat

def Draft.put (d : Draft) (field : String) (t : Tree) : Except Refusal Draft := do
  match field with
  | "english_stopwords" =>
    return { d with englishStopWords := ← Record.once d.englishStopWords Tree.asOptionalText t }
  | "czech_stopwords" =>
    return { d with czechStopWords := ← Record.once d.czechStopWords Tree.asOptionalText t }
  | "ranking" => return { d with ranking := ← Record.once d.ranking readRanking t }
  | "top_k" => return { d with topK := ← Record.once d.topK Tree.asCount t }
  | _ => return d

def Draft.finish (d : Draft) : Config where
  englishStopWords := d.englishStopWords.getD default.englishStopWords
  czechStopWords := d.czechStopWords.getD default.czechStopWords
  ranking := d.ranking.getD default.ranking
  topK := d.topK.getD default.topK

def record : Record Draft where
  fields := ["english_stopwords", "czech_stopwords", "ranking", "top_k"]
  required := 0
  unread := ⟨none, none, none, none⟩
  put := Draft.put

def ofText? (text : String) : Option Config := do
  return (← (record.read (← Tree.ofText? text)).toOption).finish

inductive FileError
  | reading (path : String)
  | parsing (path : String)
  deriving DecidableEq, Repr

def FileError.message : FileError → String
  | reading path => "reading config " ++ path
  | parsing path => "parsing config " ++ path

def ofFile (s : Storage) (path : String) : Except FileError Config :=
  match s.text? path with
  | none => .error (.reading path)
  | some text =>
    match ofText? text with
    | none => .error (.parsing path)
    | some c => .ok c

end Config

end Retrieval
