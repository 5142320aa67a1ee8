import Retrieval.Json.Number
import Retrieval.Json.Quoted

namespace Retrieval.Json

inductive Lexeme
  | null
  | bool (b : Bool)
  | number (n : Number)
  | text (s : Option String)
  | leftBracket
  | rightBracket
  | leftBrace
  | rightBrace
  | comma
  | colon
  | broken
  deriving DecidableEq, Repr

namespace Lexeme

def isBlank (c : Char) : Bool :=
  c == ' ' || c == '\t' || c == '\n' || c == '\r'

def sign? : Char → Option Lexeme
  | '[' => some leftBracket
  | ']' => some rightBracket
  | '{' => some leftBrace
  | '}' => some rightBrace
  | ',' => some comma
  | ':' => some colon
  | _ => none

def word? (cs : List Char) : Option (Lexeme × Nat) :=
  if "null".toList.isPrefixOf cs then some (null, 4)
  else if "true".toList.isPrefixOf cs then some (bool true, 4)
  else if "false".toList.isPrefixOf cs then some (bool false, 5)
  else none

def read? (c : Char) (cs : List Char) : Option (Lexeme × Nat) :=
  match sign? c with
  | some l => some (l, 0)
  | none =>
    if c == '"' then (Quoted.read? cs).map fun (s, n) => (text s, n)
    else if c == '-' || c.isDigit then (Number.read? (c :: cs)).map fun (n, k) => (number n, k - 1)
    else (word? (c :: cs)).map fun (l, k) => (l, k - 1)

/-- The lexemes of a text, up to where it has none. -/
def ofChars : List Char → List Lexeme
  | [] => []
  | c :: cs =>
    if isBlank c then ofChars cs
    else match read? c cs with
      | some (l, n) => l :: ofChars (cs.drop n)
      | none => [broken]
termination_by cs => cs.length
decreasing_by
  · simp only [List.length_cons]; omega
  · simp only [List.length_cons, List.length_drop]; omega

end Lexeme

end Retrieval.Json
