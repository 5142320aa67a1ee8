import Retrieval.Index.Weight
import Retrieval.Query.Token

namespace Retrieval.Query.RelevantWords

open Index

/-- The identifiers under an even number of negations. For each open parenthesis, innermost first,
`scopes` tells whether its contents are negated; `negating` is whether a negation waits for what it
applies to. -/
def select (scopes : List Bool) (negating : Bool) : List Token → List String
  | [] => []
  | t :: ts =>
    let negated := scopes.head?.getD false
    match t with
    | .not => select scopes (!negating) ts
    | .leftParen => select ((negated ^^ negating) :: scopes) false ts
    | .rightParen => select scopes.tail negating ts
    | .ident text =>
      if negated ^^ negating then select scopes false ts else text :: select scopes false ts
    | .and | .or | .comma | .boundary => select scopes negating ts

def ofTokens (ts : List Token) : WordSet :=
  .ofList (select [] false ts)

end Retrieval.Query.RelevantWords

namespace Retrieval.Query.TokenStream

/-- The words that ranking looks at, whichever grammar the tokens are of. The stream is rewound. -/
def relevantWords (s : TokenStream) : Index.WordSet × TokenStream :=
  (RelevantWords.ofTokens s.toList, s.rewind)

end Retrieval.Query.TokenStream
