import Retrieval.Name

namespace Retrieval.Server

/-- A type of content such as `application/json; charset=utf-8`, without its parameters. -/
structure MediaType where
  kind : List Char
  subtype : List Char
  suffix : Option (List Char)
  deriving DecidableEq, Repr

namespace MediaType

def isTokenChar (c : Char) : Bool :=
  c.isAlphanum || "!#$%&'*+-.^_|~\x60".toList.contains c

def isQuotedChar (c : Char) : Bool :=
  c.toNat < 0x80 && 0x20 ≤ c.toNat && c != '\x7f'

def splitSuffix (cs : List Char) : List Char × Option (List Char) :=
  let suffix := (cs.reverse.takeWhile (· != '+')).reverse
  if suffix.length + 1 < cs.length then
    (cs.take (cs.length - suffix.length - 1), some suffix)
  else (cs, none)

mutual

/-- Whether a text is a list of parameters, each a name with a value. A value in quotes has at least
one character, which may be a quote itself. -/
def areParameters : List Char → Bool
  | [] => true
  | ' ' :: cs => areParameters cs
  | c :: cs => isTokenChar c && nameGoesOn cs

def nameGoesOn : List Char → Bool
  | ['='] => true
  | '=' :: '"' :: c :: cs => isQuotedChar c && quotedGoesOn cs
  | '=' :: c :: cs => isTokenChar c && valueGoesOn cs
  | c :: cs => isTokenChar c && nameGoesOn cs
  | [] => false

def valueGoesOn : List Char → Bool
  | [] => true
  | ';' :: cs => areParameters cs
  | c :: cs => isTokenChar c && valueGoesOn cs

def quotedGoesOn : List Char → Bool
  | [] => false
  | '"' :: cs => quotedEnds cs
  | c :: cs => isQuotedChar c && quotedGoesOn cs

def quotedEnds : List Char → Bool
  | [] => true
  | ' ' :: cs => quotedEnds cs
  | ';' :: cs => areParameters cs
  | _ => false

end

def parse? (s : String) : Option MediaType :=
  let cs := (lowerAscii s).toList
  let kind := cs.takeWhile isTokenChar
  match cs.drop kind.length with
  | '/' :: cs =>
    let subtype := cs.takeWhile isTokenChar
    if kind.isEmpty || subtype.isEmpty then none
    else
      let (name, suffix) := splitSuffix subtype
      match cs.drop subtype.length with
      | [] => some ⟨kind, name, suffix⟩
      | c :: cs =>
        if (c == ';' || c == ' ') && areParameters cs then some ⟨kind, name, suffix⟩ else none
  | _ => none

def isJson (m : MediaType) : Bool :=
  m.kind == "application".toList &&
    (m.subtype == "json".toList || m.suffix == some "json".toList)

end MediaType

end Retrieval.Server
