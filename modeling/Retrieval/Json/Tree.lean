import Retrieval.Json.Lexeme

namespace Retrieval.Json

/-- A value as it is written, as far as it goes. A text or a key is missing if it has half a
character in it. -/
inductive Tree
  | null
  | bool (b : Bool)
  | number (n : Number)
  | text (s : Option String)
  | array (items : List Tree)
  | object (members : List (Option String × Tree))
  /-- Here the text stops being a value. -/
  | broken
  deriving Repr

namespace Tree

/-- An array or object that is open: what comes before the value to be read, the last first, and
the key of that value. -/
inductive Frame
  | array (before : List Tree)
  | object (before : List (Option String × Tree)) (key : Option String)

def breakOff : List Frame → Tree → Tree
  | [], t => t
  | .array before :: open_, t => breakOff open_ (.array (t :: before).reverse)
  | .object before key :: open_, t => breakOff open_ (.object ((key, t) :: before).reverse)

mutual

/-- Reads a value within the open ones. The lexemes behind the outermost value remain. -/
def readValue (frames : List Frame) : List Lexeme → Tree × List Lexeme
  | .null :: ls => readBehind frames .null ls
  | .bool b :: ls => readBehind frames (.bool b) ls
  | .number n :: ls => readBehind frames (.number n) ls
  | .text s :: ls => readBehind frames (.text s) ls
  | .leftBracket :: .rightBracket :: ls => readBehind frames (.array []) ls
  | .leftBracket :: ls => readValue (.array [] :: frames) ls
  | .leftBrace :: .rightBrace :: ls => readBehind frames (.object []) ls
  | .leftBrace :: .text key :: .colon :: ls => readValue (.object [] key :: frames) ls
  | .leftBrace :: .text key :: _ => (breakOff (.object [] key :: frames) .broken, [.broken])
  | .leftBrace :: _ => (breakOff (.object [] none :: frames) .broken, [.broken])
  | _ => (breakOff frames .broken, [.broken])

def readBehind (frames : List Frame) (t : Tree) (ls : List Lexeme) : Tree × List Lexeme :=
  match frames, ls with
  | [], ls => (t, ls)
  | .array before :: frames, .comma :: ls => readValue (.array (t :: before) :: frames) ls
  | .array before :: frames, .rightBracket :: ls =>
    readBehind frames (.array (t :: before).reverse) ls
  | .array before :: frames, _ => (breakOff (.array (t :: before) :: frames) .broken, [.broken])
  | .object before key :: frames, .comma :: .text k :: .colon :: ls =>
    readValue (.object ((key, t) :: before) k :: frames) ls
  | .object before key :: frames, .comma :: .text k :: _ =>
    (breakOff (.object ((key, t) :: before) k :: frames) .broken, [.broken])
  | .object before key :: frames, .rightBrace :: ls =>
    readBehind frames (.object ((key, t) :: before).reverse) ls
  | .object before key :: frames, _ =>
    (breakOff (.object ((key, t) :: before) none :: frames) .broken, [.broken])

end

def ofStart (text : String) : Tree :=
  (readValue [] (Lexeme.ofChars text.toList)).1

def ofText? (text : String) : Option Tree :=
  match readValue [] (Lexeme.ofChars text.toList) with
  | (t, []) => some t
  | _ => none

mutual

def isWhole : Tree → Bool
  | .broken => false
  | .array ts => areWhole ts
  | .object ms => membersAreWhole ms
  | _ => true

def areWhole : List Tree → Bool
  | [] => true
  | t :: ts => t.isWhole && areWhole ts

def membersAreWhole : List (Option String × Tree) → Bool
  | [] => true
  | (_, t) :: ms => t.isWhole && membersAreWhole ms

end

/-- Of the members with one key the last is kept. -/
def keepLast : List (Option String × Tree) → List (Option String × Tree)
  | [] => []
  | (key, t) :: ms =>
    if ms.any (·.1 == key) then keepLast ms else (key, t) :: keepLast ms

mutual

/-- The value with each key once. There is none for a text with half a character in it, a number
without a double near it, or more than `depth` arrays and objects within each other. -/
def settle (depth : Nat) : Tree → Option Tree
  | .broken | .text none => none
  | .number n => if n.isFinite then some (.number n) else none
  | .array ts =>
    match depth with
    | 0 => none
    | depth + 1 => (settleItems depth ts).map .array
  | .object ms =>
    match depth with
    | 0 => none
    | depth + 1 => (settleMembers depth ms).map fun ms => .object (keepLast ms)
  | t => some t

def settleItems (depth : Nat) : List Tree → Option (List Tree)
  | [] => some []
  | t :: ts => do return (← settle depth t) :: (← settleItems depth ts)

def settleMembers (depth : Nat) :
    List (Option String × Tree) → Option (List (Option String × Tree))
  | [] => some []
  | (none, _) :: _ => none
  | (some key, t) :: ms => do return (some key, ← settle depth t) :: (← settleMembers depth ms)

end

def maxDepth : Nat := 127

def ofDocument? (text : String) : Option Tree := do
  settle maxDepth (← ofText? text)

end Tree

end Retrieval.Json
