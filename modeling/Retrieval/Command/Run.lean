import Retrieval.Batch
import Retrieval.Command.Basic
import Retrieval.Command.Output
import Retrieval.Summary

namespace Retrieval

open Search

namespace Command

inductive Failure
  | config (e : Config.FileError)
  | name (e : UnknownName)
  | source (e : Article.SourceError)
  | noIndex (l : Language)
  | query (text : String) (e : Query.QueryError)
  | address
  deriving DecidableEq, Repr

def Failure.message : Failure → String
  | config e => e.message
  | name e => e.message
  | source e => e.message
  | noIndex l => Catalog.missingIndex l
  | query text e => text ++ ": " ++ e.message
  | address => "invalid socket address syntax"

def Overrides.apply (o : Overrides) (files : Storage) : Except Failure Config := do
  let c ← match o.config with
    | some path => (Config.ofFile files path).mapError .config
    | none => .ok .default
  return { c with
    englishStopWords := o.englishStopWords.or c.englishStopWords
    czechStopWords := o.czechStopWords.or c.czechStopWords }

def detector? (language : String) : Except Failure Detector :=
  if language = "auto" then .ok .byStopWords
  else ((Language.ofName language).mapError .name).map .fixed

def index (files : Storage) (c : Config) (input language : String) : Except Failure Catalog := do
  let detect ← detector? language
  let paths ← (Article.Source.collect files input).mapError .source
  return (Batch.runAll detect (.empty c files) (Batch.entries files paths)).2

def Loading.load (l : Loading) (files : Storage) : Except Failure Catalog := do
  index files (← l.overrides.apply files) l.input l.language

def rows (files : Storage) : Nat → List (Hit Float × String) → List Output
  | _, [] => []
  | n, (h, path) :: hits =>
    let title := ((Article.Source.load files path).toOption.map Article.title).getD ""
    .row n h title path :: rows files (n + 1) hits

def Asking.ask (a : Asking) (files : Storage) (c : Catalog) (q : String) (json : Bool) :
    Except Failure (List Output) := do
  match c.index? a.language with
  | none => .error (.noIndex a.language)
  | some ix =>
    let ranking := a.ranking.getD c.config.ranking
    let o ← (search .float ix q a.grammar ranking (some (c.config.clampTopK a.limit))).mapError
      (.query q)
    let paths := o.hits.map fun h => (ix.filePath h.docId).toOption.getD "?"
    if json then return [.report ⟨q, a.language, a.grammar, ranking, o, paths⟩]
    else return .summary o.totalHits o.hits.length :: rows files 1 (o.hits.zip paths)

inductive ShellLine
  | blank
  | quit
  | grammar (name : String)
  | ranking (name : String)
  | language (name : String)
  | limit (count : String)
  | stats
  | query (text : String)
  deriving DecidableEq, Repr

def ShellLine.ofText (line : String) : ShellLine :=
  let line := Text.Blank.trim line.toList
  let command := line.takeWhile (· != ' ')
  let value := String.ofList (line.drop (command.length + 1))
  match String.ofList command with
  | "" => .blank
  | ":quit" | ":q" => .quit
  | ":grammar" => .grammar value
  | ":ranking" => .ranking value
  | ":lang" => .language value
  | ":k" => .limit value
  | ":stats" => .stats
  | _ => .query (String.ofList line)

/-- Answers a line; there is no way of asking further lines after the last one. -/
def Asking.answer (a : Asking) (files : Storage) (c : Catalog) :
    ShellLine → List Output × Option Asking
  | .blank => ([], some a)
  | .quit => ([], none)
  | .grammar name =>
    match Query.Grammar.ofName name with
    | .ok g => ([], some { a with grammar := g })
    | .error e => ([.error e.message], some a)
  | .ranking name =>
    match Ranking.ofName name with
    | .ok r => ([], some { a with ranking := some r })
    | .error e => ([.error e.message], some a)
  | .language name =>
    match Language.ofName name with
    | .ok l => ([], some { a with language := l })
    | .error e => ([.error e.message], some a)
  | .limit count =>
    match Decimal.Natural.parse Decimal.Natural.wordLimit count with
    | .ok k => ([], some { a with limit := some k })
    | .error e => ([.error e.message], some a)
  | .stats => ([.stats c.statsJson], some a)
  | .query text =>
    match a.ask files c text false with
    | .ok out => (out, some a)
    | .error e => ([.error e.message], some a)

/-- Answers lines until one asks to stop. A prompt follows the answer to every other line. -/
def Asking.answerAll (a : Asking) (files : Storage) (c : Catalog) : List String → List Output
  | [] => []
  | line :: lines =>
    match a.answer files c (.ofText line) with
    | (out, none) => out
    | (out, some a) => out ++ .prompt :: a.answerAll files c lines

structure Outcome where
  output : List Output
  code : Nat

def Outcome.ofResult : Except Failure (List Output) → Outcome
  | .ok out => ⟨out, 0⟩
  | .error e => ⟨[.error ("Error: " ++ e.message)], 1⟩

def execute (files : Storage) (lines : List String) : Command → Except Failure (List Output)
  | .stats l => do return [.stats (← l.load files).statsJson]
  | .query l a q json => do a.ask files (← l.load files) q json
  | .shell l a => do return .prompt :: a.answerAll files (← l.load files) lines

def run (files : Storage) (environment : List (String × String)) (args lines : List String) :
    Outcome :=
  match parse? environment args with
  | none => ⟨[], 2⟩
  | some command => .ofResult (command.execute files lines)

end Command

end Retrieval
