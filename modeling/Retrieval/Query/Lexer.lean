import Retrieval.Text.Blank
import Retrieval.Query.Token

namespace Retrieval.Query.Lexer

open Text

/-- Commas and boundaries are symbols of the functional grammar only. -/
def symbol? (g : Grammar) : Char → Option Token
  | '&' => some .and
  | '|' => some .or
  | '!' => some .not
  | '(' => some .leftParen
  | ')' => some .rightParen
  | ',' => if g = .functional then some .comma else none
  | '%' => if g = .functional then some .boundary else none
  | _ => none

def identifier : List Char → List Token
  | [] => []
  | cs => [.ident (String.ofList cs.reverse)]

/-- The tokens of a text, of whose first identifier some characters have been read already. A
backslash takes the character after it into the identifier, whatever it is. -/
def lexFrom (g : Grammar) : List Char → List Char → List Token
  | word, [] => identifier word
  | word, '\\' :: [] => identifier word
  | word, '\\' :: c :: cs => lexFrom g (c :: word) cs
  | word, c :: cs =>
    if Blank.isBlank c then identifier word ++ lexFrom g [] cs
    else match symbol? g c with
      | some t => identifier word ++ t :: lexFrom g [] cs
      | none => lexFrom g (c :: word) cs

/-- Identifiers side by side are joined by `&`. -/
def joinIdentifiers : List Token → List Token
  | .ident a :: .ident b :: ts => .ident a :: .and :: joinIdentifiers (.ident b :: ts)
  | t :: ts => t :: joinIdentifiers ts
  | [] => []

def lex (g : Grammar) (text : String) : Except QueryError (List Token) :=
  if text.isEmpty then .error .empty
  else
    let ts := lexFrom g [] text.toList
    .ok (match g with
      | .infixed => joinIdentifiers ts
      | .functional => ts)

end Retrieval.Query.Lexer
