import Retrieval.Name
import Retrieval.Text.LetterCase
import Retrieval.Text.Span
import Retrieval.Terms.StopWords

namespace Retrieval

inductive Language
  | english
  | czech
  deriving DecidableEq, Repr

namespace Language

def all : List Language :=
  [english, czech]

def name : Language → String
  | english => "english"
  | czech => "czech"

def code : Language → String
  | english => "en"
  | czech => "cs"

/-- Slovak is close enough to Czech to share its terms. -/
def ofName (s : String) : Except UnknownName Language :=
  match lowerAscii s with
  | "en" | "english" => .ok english
  | "cs" | "czech" | "sk" | "slovak" => .ok czech
  | other => .error (.language other)

def stopWords : Language → Terms.StopWords
  | english => .english
  | czech => .czech

def votes (words : List String) (l : Language) : Nat :=
  words.countP l.stopWords.contains

/-- The first of the languages with the most votes, if it has any. -/
def elect (words : List String) : List Language → Option Language
  | [] => none
  | l :: ls =>
    match elect words ls with
    | none => if votes words l = 0 then none else some l
    | some best => some (if votes words l < votes words best then best else l)

def ofText? (text : String) : Option Language :=
  elect ((Text.Span.spans text).map Text.LetterCase.lowerString) all

end Language

/-- Decides which language a text is in; none if no index would take it. -/
abbrev Detector := String → Option Language

def Detector.byStopWords : Detector :=
  Language.ofText?

def Detector.fixed (l : Language) : Detector :=
  fun _ => some l

end Retrieval
