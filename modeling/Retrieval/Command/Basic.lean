import Retrieval.Command.Options
import Retrieval.Decimal.Natural
import Retrieval.Language
import Retrieval.Query.Compiled
import Retrieval.Search.Ranking

namespace Retrieval

open Query Search

namespace Command

structure Overrides where
  config : Option String
  englishStopWords : Option String
  czechStopWords : Option String
  deriving DecidableEq, Repr

structure Loading where
  input : String
  language : String
  overrides : Overrides
  deriving DecidableEq, Repr

structure Asking where
  language : Language
  grammar : Grammar
  ranking : Option Ranking
  limit : Option Nat
  deriving DecidableEq, Repr

end Command

open Command

inductive Command
  | stats (l : Loading)
  | query (l : Loading) (a : Asking) (q : String) (json : Bool)
  | shell (l : Loading) (a : Asking)
  deriving DecidableEq, Repr

namespace Command

def overrideOptions : List String :=
  ["config", "english-stopwords", "czech-stopwords"]

def overrides? (g : Given) : Option Overrides := do
  return {
    config := ← g.pathOr "config" "QUARRY_CONFIG"
    englishStopWords := ← g.pathOr "english-stopwords" "QUARRY_STOPWORDS_EN"
    czechStopWords := ← g.pathOr "czech-stopwords" "QUARRY_STOPWORDS_CS" }

def loadingOptions : List String :=
  ["input", "language"] ++ overrideOptions

def loading? (g : Given) : Option Loading := do
  return {
    input := ← (← g.text? "input") |> Given.path?
    language := (g.text? "language").getD "auto"
    overrides := ← overrides? g }

def askingOptions : List String :=
  ["lang", "grammar", "ranking", "k"]

def asking? (g : Given) : Option Asking := do
  return {
    language := (← g.optional "lang" fun v => (Language.ofName v).toOption).getD .english
    grammar := (← g.optional "grammar" fun v => (Grammar.ofName v).toOption).getD .functional
    ranking := ← g.optional "ranking" fun v => (Ranking.ofName v).toOption
    limit := ← g.optional "k" Decimal.Natural.word? }

def parse? (environment : List (String × String)) : List String → Option Command
  | "stats" :: args => do
    let g ← Options.read ⟨loadingOptions, []⟩ environment args
    return .stats (← loading? g)
  | "query" :: args => do
    let g ← Options.read ⟨"q" :: loadingOptions ++ askingOptions, ["json"]⟩ environment args
    return .query (← loading? g) (← asking? g) (← g.text? "q") (g.has "json")
  | "shell" :: args => do
    let g ← Options.read ⟨loadingOptions ++ askingOptions, []⟩ environment args
    return .shell (← loading? g) (← asking? g)
  | _ => none

end Command

end Retrieval
