import Retrieval.Text.Letter
import Retrieval.Text.Numeral

namespace Retrieval.Text.Span

inductive Kind
  | tag
  | url
  | time
  | number
  | word
  deriving DecidableEq, Repr

structure Match where
  kind : Kind
  text : List Char
  deriving DecidableEq, Repr

def isWordChar (c : Char) : Bool :=
  Letter.contains c || Numeral.contains c || c == '*'

def isUrlChar (c : Char) : Bool :=
  c.isAlphanum || "-+&@#/%?=~_|!:,.;".toList.contains c

/-- Punctuation of a sentence around an address is not part of it. -/
def isUrlEnd (c : Char) : Bool :=
  c.isAlphanum || "-+&@#/%=~_|".toList.contains c

def schemes : List String :=
  ["https://", "http://", "ftp://", "file://"]

/-- The longest continuation by inner characters, in which a joint may stand before an inner
character. -/
def joined (inner joint : Char → Bool) : List Char → List Char
  | [] => []
  | c :: cs =>
    if inner c then c :: joined inner joint cs
    else match cs with
      | [] => []
      | d :: _ => if joint c && inner d then c :: joined inner joint cs else []

def tag? : List Char → Option (List Char)
  | '<' :: cs =>
    let inside := cs.takeWhile (fun c => c != '<' && c != '>')
    match cs.drop inside.length with
    | '>' :: _ => some ('<' :: inside ++ ['>'])
    | _ => none
  | _ => none

def url? (cs : List Char) : Option (List Char) :=
  match schemes.find? (·.toList.isPrefixOf cs) with
  | none => none
  | some s =>
    let run := (cs.drop s.length).takeWhile isUrlChar
    match (run.reverse.dropWhile (fun c => !isUrlEnd c)).reverse with
    | [] => none
    | address => some (s.toList ++ address)

def time? (cs : List Char) : Option (List Char) :=
  let hours := cs.takeWhile Numeral.isDigit
  match hours, cs.drop hours.length with
  | _ :: _, ':' :: rest =>
    match rest.takeWhile Numeral.isDigit with
    | [] => none
    | minutes => some (hours ++ ':' :: minutes)
  | _, _ => none

def isSeparator (c : Char) : Bool :=
  c == '.' || c == ','

def number? : List Char → Option (List Char)
  | [] => none
  | c :: cs =>
    if Numeral.isDigit c then
      let rest := joined Numeral.isDigit isSeparator cs
      if rest.any isSeparator then some (c :: rest) else none
    else none

def word? : List Char → Option (List Char)
  | [] => none
  | c :: cs => if isWordChar c then some (c :: joined isWordChar (· == '\'') cs) else none

/-- The match at the start of a text: the kinds are tried in this order. -/
def first? (cs : List Char) : Option Match :=
  ((tag? cs).map (⟨.tag, ·⟩)).or <|
  ((url? cs).map (⟨.url, ·⟩)).or <|
  ((time? cs).map (⟨.time, ·⟩)).or <|
  ((number? cs).map (⟨.number, ·⟩)).or <|
  (word? cs).map (⟨.word, ·⟩)

def scan : List Char → List Match
  | [] => []
  | c :: cs =>
    match first? (c :: cs) with
    | some m => m :: scan (cs.drop (m.text.length - 1))
    | none => scan cs
termination_by cs => cs.length
decreasing_by
  · simp only [List.length_drop, List.length_cons]; omega
  · simp

/-- The matches of a text other than tags. -/
def spans (text : String) : List String :=
  (scan text.toList).filterMap fun m => if m.kind = .tag then none else some (String.ofList m.text)

end Retrieval.Text.Span
