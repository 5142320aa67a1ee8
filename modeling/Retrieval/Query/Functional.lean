import Retrieval.Query.Lexer
import Retrieval.Query.Expr

namespace Retrieval.Query.Functional

abbrev Reading (α : Type) (ts : List Token) :=
  Except QueryError (α × { rest : List Token // rest.length < ts.length })

def expect (t : Token) (e : QueryError) : (ts : List Token) → Reading Unit ts
  | [] => .error .incomplete
  | u :: ts => if u = t then .ok ((), ⟨ts, by simp⟩) else .error e

/-- A plain term that is in a list of operands already is not repeated. -/
def dropRepeated : List String → List Expr → List Expr
  | _, [] => []
  | seen, .term text :: es =>
    if text ∈ seen then dropRepeated seen es else .term text :: dropRepeated (text :: seen) es
  | seen, e :: es => e :: dropRepeated seen es

mutual

def expression (depth : Nat) (ts : List Token) : Reading Expr ts :=
  if Expr.maxDepth ≤ depth then .error .tooDeep
  else match ts with
    | [] => .error .incomplete
    | .ident text :: ts => .ok (.term text, ⟨ts, by simp⟩)
    | .not :: ts =>
      match expect .leftParen .missingLeftParen ts with
      | .error e => .error e
      | .ok (_, ⟨ts₁, h₁⟩) =>
        match expression (depth + 1) ts₁ with
        | .error e => .error e
        | .ok (e, ⟨ts₂, h₂⟩) =>
          match expect .rightParen .missingRightParen ts₂ with
          | .error e => .error e
          | .ok (_, ⟨ts₃, h₃⟩) => .ok (.not e, ⟨ts₃, by simp; omega⟩)
    | .and :: ts =>
      match arguments depth ts with
      | .error e => .error e
      | .ok (es, ⟨ts', h⟩) => .ok (.all (dropRepeated [] es), ⟨ts', by simp; omega⟩)
    | .or :: ts =>
      match arguments depth ts with
      | .error e => .error e
      | .ok (es, ⟨ts', h⟩) => .ok (.any (dropRepeated [] es), ⟨ts', by simp; omega⟩)
    | _ => .error .invalidClause
termination_by (ts.length, 1)
decreasing_by
  · exact .left _ _ (by simp only [List.length_cons]; omega)
  · exact .left _ _ (by simp only [List.length_cons]; omega)
  · exact .left _ _ (by simp only [List.length_cons]; omega)

def arguments (depth : Nat) (ts : List Token) : Reading (List Expr) ts :=
  match expect .leftParen .missingLeftParen ts with
  | .error e => .error e
  | .ok (_, ⟨ts₁, h₁⟩) =>
    match operands depth ts₁ with
    | .error e => .error e
    | .ok (es, ⟨ts₂, h₂⟩) =>
      match expect .rightParen .missingRightParen ts₂ with
      | .error e => .error e
      | .ok (_, ⟨ts₃, h₃⟩) => .ok (es, ⟨ts₃, by omega⟩)
termination_by (ts.length, 0)
decreasing_by
  exact .left _ _ h₁

def operands (depth : Nat) (ts : List Token) : Reading (List Expr) ts :=
  match expression (depth + 1) ts with
  | .error e => .error e
  | .ok (e, ⟨.comma :: ts₁, h₁⟩) =>
    match operands depth ts₁ with
    | .error e => .error e
    | .ok (es, ⟨ts₂, h₂⟩) => .ok (e :: es, ⟨ts₂, by simp at h₁; omega⟩)
  | .ok (e, rest) => .ok ([e], rest)
termination_by (ts.length, 2)
decreasing_by
  · exact .right _ (by omega)
  · exact .left _ _ (by simp only [List.length_cons] at h₁; omega)

end

/-- A whole query: one expression between two boundaries. -/
def parseTokens (ts : List Token) : Except QueryError Expr :=
  match expect .boundary .missingStartBoundary ts with
  | .error e => .error e
  | .ok (_, ⟨ts₁, _⟩) =>
    match expression 0 ts₁ with
    | .error e => .error e
    | .ok (e, ⟨ts₂, _⟩) =>
      match expect .boundary .missingEndBoundary ts₂ with
      | .error e => .error e
      | .ok (_, ⟨[], _⟩) => .ok e
      | .ok _ => .error .trailingInput

def parseBounded (text : String) : Except QueryError (Expr × TokenStream) := do
  let ts ← Lexer.lex .functional text
  let e ← parseTokens ts
  return (e, .ofList ts)

def parse (query : String) : Except QueryError (Expr × TokenStream) :=
  if query.isEmpty then .error .empty else parseBounded ("%" ++ query ++ "%")

end Retrieval.Query.Functional
