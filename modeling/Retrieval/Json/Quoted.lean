import Retrieval.Text.Hex

namespace Retrieval.Json.Quoted

open Text

def escaped? : Char → Option Nat
  | '"' => some 0x22
  | '\\' => some 0x5C
  | '/' => some 0x2F
  | 'b' => some 0x08
  | 'f' => some 0x0C
  | 'n' => some 0x0A
  | 'r' => some 0x0D
  | 't' => some 0x09
  | _ => none

def unit? (a b c d : Char) : Option Nat := do
  return ((← Hex.digit? a) * 16 + (← Hex.digit? b)) * 256 + (← Hex.digit? c) * 16 + (← Hex.digit? d)

/-- The codes of a text up to the quote that ends it, after those read before in reverse, and the
number of characters read with the quote. A code may be one half of a character. -/
def readFrom (codes : List Nat) (n : Nat) : List Char → Option (List Nat × Nat)
  | [] => none
  | '"' :: _ => some (codes.reverse, n + 1)
  | '\\' :: 'u' :: a :: b :: c :: d :: cs =>
    match unit? a b c d with
    | some u => readFrom (u :: codes) (n + 6) cs
    | none => none
  | '\\' :: e :: cs =>
    match escaped? e with
    | some u => readFrom (u :: codes) (n + 2) cs
    | none => none
  | c :: cs =>
    if c.toNat < 0x20 || c == '\\' then none else readFrom (c.toNat :: codes) (n + 1) cs

def isHighHalf (u : Nat) : Bool :=
  0xD800 ≤ u && u < 0xDC00

def isLowHalf (u : Nat) : Bool :=
  0xDC00 ≤ u && u < 0xE000

def joinHalves (read : List Char) : List Nat → Option (List Char)
  | [] => some read.reverse
  | u :: us =>
    if isHighHalf u then
      match us with
      | v :: us =>
        if isLowHalf v then
          joinHalves (Char.ofNat (0x10000 + (u - 0xD800) * 0x400 + (v - 0xDC00)) :: read) us
        else none
      | [] => none
    else if isLowHalf u then none
    else joinHalves (Char.ofNat u :: read) us

/-- The text between two quotes, of which the first has been read, and the number of characters
read. What stands for no text may still be passed over. -/
def read? (cs : List Char) : Option (Option String × Nat) :=
  (readFrom [] 0 cs).map fun (codes, n) => ((joinHalves [] codes).map String.ofList, n)

def renderChar (c : Char) : String :=
  match c with
  | '"' => "\\\""
  | '\\' => "\\\\"
  | '\x08' => "\\b"
  | '\x0c' => "\\f"
  | '\n' => "\\n"
  | '\r' => "\\r"
  | '\t' => "\\t"
  | c =>
    if c.toNat < 0x20 then "\\u00" ++ (if c.toNat < 0x10 then "0" else "1") ++
      (Nat.digitChar (c.toNat % 16)).toString
    else c.toString

def render (s : String) : String :=
  "\"" ++ s.foldl (fun out c => out ++ renderChar c) "" ++ "\""

end Retrieval.Json.Quoted
