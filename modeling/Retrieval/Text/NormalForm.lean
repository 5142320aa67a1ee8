import Retrieval.Text.Mark
import Retrieval.Text.Decomposition
import Retrieval.Text.Composition

namespace Retrieval.Text.NormalForm

def insertMark (c : Char) : List Char → List Char
  | [] => [c]
  | d :: ds =>
    if Mark.combiningClass c < Mark.combiningClass d then c :: d :: ds else d :: insertMark c ds

/-- The characters, with each unbroken sequence of marks in ascending order of class. The first
list holds the marks since the last character of class zero. -/
def order : List Char → List Char → List Char
  | marks, [] => marks
  | marks, c :: cs =>
    if Mark.combiningClass c = 0 then marks ++ c :: order [] cs
    else order (insertMark c marks) cs

/-- Joins each character of class zero with what follows it. Of the characters since `starter`
that stay, `kept` is the list in reverse; the last of them blocks a character of no higher class. -/
def compose (starter : Char) (kept : List Char) : List Char → List Char
  | [] => starter :: kept.reverse
  | c :: cs =>
    let open? := match kept with
      | [] => true
      | d :: _ => Mark.combiningClass d < Mark.combiningClass c
    match if open? then Composition.pair? starter c else none with
    | some s => compose s kept cs
    | none =>
      if Mark.combiningClass c = 0 then starter :: kept.reverse ++ compose c [] cs
      else compose starter (c :: kept) cs

def composeAll : List Char → List Char
  | [] => []
  | c :: cs => if Mark.combiningClass c = 0 then compose c [] cs else c :: composeAll cs

def isAscii (cs : List Char) : Bool :=
  cs.all (fun c => c.toNat < 0x80)

def decomposed (cs : List Char) : List Char :=
  if isAscii cs then cs else order [] (cs.flatMap Decomposition.canonical)

def compatibilityComposed (cs : List Char) : List Char :=
  if isAscii cs then cs else composeAll (order [] (cs.flatMap Decomposition.compatibility))

end Retrieval.Text.NormalForm
