import Retrieval.Decimal.Natural
import Retrieval.Text.Hex
import Retrieval.Text.Lines

namespace Retrieval.Server.Address

open Decimal

def digits? (limit : Nat) (cs : List Char) : Option Nat :=
  match cs with
  | '+' :: _ => none
  | cs => (Natural.parse limit (String.ofList cs)).toOption

def isOctet (cs : List Char) : Bool :=
  (digits? 256 cs).isSome && (cs.length == 1 || cs.head? != some '0')

def isShort (cs : List Char) : Bool :=
  let parts := Text.Lines.splitOn '.' cs
  parts.length == 4 && parts.all isOctet

def isGroup (cs : List Char) : Bool :=
  cs.length ≤ 4 && !cs.isEmpty && cs.all fun c => (Text.Hex.digit? c).isSome

/-- The number of groups of four hexadecimal digits, of which a short address at the end stands
for two. -/
def countGroups : List (List Char) → Option Nat
  | [] => some 0
  | [g] => if isGroup g then some 1 else if isShort g then some 2 else none
  | g :: gs => if isGroup g then (countGroups gs).map (· + 1) else none

def splitGap (before : List Char) : List Char → Option (List Char × List Char)
  | ':' :: ':' :: cs => some (before.reverse, cs)
  | c :: cs => splitGap (c :: before) cs
  | [] => none

def groupsOf (cs : List Char) : List (List Char) :=
  if cs.isEmpty then [] else Text.Lines.splitOn ':' cs

/-- Eight groups with colons between them; two colons stand for at least one group of zeros. -/
def isLong (cs : List Char) : Bool :=
  match splitGap [] cs with
  | none => countGroups (groupsOf cs) == some 8
  | some (head, tail) =>
    (groupsOf head).all isGroup &&
      match countGroups (groupsOf tail) with
      | some n => (groupsOf head).length + n < 8
      | none => false

def isZoned (cs : List Char) : Bool :=
  let address := cs.takeWhile (· != '%')
  isLong address &&
    match cs.drop address.length with
    | [] => true
    | _ :: zone => (digits? (1 <<< 32) zone).isSome

/-- Whether a host can be listened on: a short address, or a long one in brackets. -/
def isHost (host : String) : Bool :=
  match host.toList with
  | '[' :: cs => cs.getLast? == some ']' && isZoned cs.dropLast
  | cs => isShort cs

end Retrieval.Server.Address
