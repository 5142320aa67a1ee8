import Retrieval.Text.Blank
import Retrieval.Text.LetterCase

namespace Retrieval.Server.Excerpt

open Text

def startsWith : List Char → List Char → Bool
  | [], _ => true
  | _ :: _, [] => false
  | w :: ws, c :: cs => LetterCase.fold w == LetterCase.fold c && startsWith ws cs

def wordAt? (words : List (List Char)) (cs : List Char) : Option (List Char) :=
  words.find? (startsWith · cs)

def firstFrom (words : List (List Char)) (n : Nat) : List Char → Option Nat
  | [] => none
  | c :: cs =>
    if (wordAt? words (c :: cs)).isSome then some n else firstFrom words (n + c.utf8Size) cs

def within : Nat → List Char → List Char
  | _, [] => []
  | n, c :: cs => if c.utf8Size ≤ n then c :: within (n - c.utf8Size) cs else []

/-- The characters between two places, which are counted in bytes; a place inside a character is
before it. -/
def between (start stop : Nat) (cs : List Char) : List Char :=
  (within stop cs).drop (within start cs).length

def bytesBefore : Nat := 100

def bytesFrom : Nat := 200

def headLength : Nat := 200

/-- The text around the first of the words, or its head if it has none of them. -/
def cut (words : List (List Char)) (cs : List Char) : List Char :=
  match firstFrom words 0 cs with
  | some n => between (n - bytesBefore) (n + bytesFrom) cs
  | none => cs.take headLength

def openMark : List Char := "<em>".toList

def closeMark : List Char := "</em>".toList

/-- Puts marks around the words. So many characters still belong to the word that was marked
last. -/
def markFrom (words : List (List Char)) : Nat → List Char → List Char
  | _, [] => []
  | n + 1, c :: cs => c :: (if n = 0 then closeMark else []) ++ markFrom words n cs
  | 0, c :: cs =>
    match wordAt? words (c :: cs) with
    | some (_ :: []) => openMark ++ c :: closeMark ++ markFrom words 0 cs
    | some (_ :: w) => openMark ++ c :: markFrom words w.length cs
    | _ => c :: markFrom words 0 cs

def sought (words : List String) : List (List Char) :=
  (words.map String.toList).filter fun w => !w.all Blank.isBlank

def ofText? (text : String) (words : List String) : Option String :=
  if text.isEmpty then none
  else
    let words := sought words
    some (String.ofList (markFrom words 0 (cut words text.toList)))

end Retrieval.Server.Excerpt
