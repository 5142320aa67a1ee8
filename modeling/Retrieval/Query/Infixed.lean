import Retrieval.Query.Lexer
import Retrieval.Query.Expr

namespace Retrieval.Query.Infixed

structure Conversion where
  output : List Token
  /-- Operators and parentheses that wait for their operands, the innermost first. -/
  pending : List Token
  expectsOperand : Bool
  deriving DecidableEq, Repr

namespace Conversion

def start : Conversion :=
  ⟨[], [], true⟩

def closeParen? : List Token → List Token → Option (List Token × List Token)
  | _, [] => none
  | out, .leftParen :: pending => some (out, pending)
  | out, t :: pending => closeParen? (t :: out) pending

/-- Writes the operators that a binary operator follows. All of them bind at least as tightly. -/
def writeOperators : List Token → List Token → List Token × List Token
  | out, [] => (out, [])
  | out, t :: pending =>
    if t.isOperator then writeOperators (t :: out) pending else (out, t :: pending)

def step (s : Conversion) : Token → Except QueryError Conversion
  | .ident text =>
    if s.expectsOperand then .ok ⟨.ident text :: s.output, s.pending, false⟩
    else .error (.unexpectedToken (.ident text))
  | .not =>
    if s.expectsOperand then .ok { s with pending := .not :: s.pending }
    else .error (.unexpectedToken .not)
  | .leftParen =>
    if s.expectsOperand then .ok { s with pending := .leftParen :: s.pending }
    else .error (.unexpectedToken .leftParen)
  | .rightParen =>
    match closeParen? s.output s.pending with
    | none => .error .missingLeftParen
    | some (output, pending) =>
      if s.expectsOperand then .error .incomplete else .ok ⟨output, pending, false⟩
  | .and =>
    if s.expectsOperand then .error (.tooFewOperands .and)
    else
      let (output, pending) := writeOperators s.output s.pending
      .ok ⟨output, .and :: pending, true⟩
  | .or =>
    if s.expectsOperand then .error (.tooFewOperands .or)
    else
      let (output, pending) := writeOperators s.output s.pending
      .ok ⟨output, .or :: pending, true⟩
  | .comma => .error (.unexpectedToken .comma)
  | .boundary => .error (.unexpectedToken .boundary)

def writeRest : List Token → List Token → Except QueryError (List Token)
  | out, [] => .ok out.reverse
  | out, t :: pending =>
    if t = .leftParen then .error .missingRightParen else writeRest (t :: out) pending

def finish (s : Conversion) : Except QueryError (List Token) :=
  if s.expectsOperand then .error .incomplete else writeRest s.output s.pending

end Conversion

/-- Why a conversion failed, and the tokens after the one that it failed at. -/
structure Rejection where
  error : QueryError
  unread : List Token
  deriving DecidableEq, Repr

def convertFrom (s : Conversion) : List Token → Except Rejection (List Token)
  | [] => s.finish.mapError (⟨·, []⟩)
  | t :: ts =>
    match s.step t with
    | .ok s => convertFrom s ts
    | .error e => .error ⟨e, ts⟩

/-- The tokens in postfix order. `&` and `|` have the same priority and associate to the left; `!`
binds tighter. -/
def toPostfix (ts : List Token) : Except Rejection (List Token) :=
  convertFrom .start ts

def countOperands : Nat → List Token → Except QueryError Nat
  | n, [] => .ok n
  | n, .ident _ :: ts => countOperands (n + 1) ts
  | n, .not :: ts => if n = 0 then .error (.tooFewOperands .not) else countOperands n ts
  | n, t :: ts =>
    if n < 2 then .error (.tooFewOperands t.operator) else countOperands (n - 1) ts

def checkOperands (postfixed : List Token) : Except QueryError Unit :=
  match countOperands 0 postfixed with
  | .error e => .error e
  | .ok 0 => .error .incomplete
  | .ok 1 => .ok ()
  | .ok n => .error (.tooManyOperands n)

structure Part where
  expr : Expr
  depth : Nat

def Part.not (p : Part) : Part :=
  ⟨.not p.expr, p.depth + 1⟩

/-- An operand that goes into the node on its left makes that deeper only if it is as deep. -/
def Part.and (l r : Part) : Part :=
  ⟨l.expr.and r.expr, match l.expr with
    | .all _ => max l.depth (r.depth + 1)
    | _ => max l.depth r.depth + 1⟩

def Part.or (l r : Part) : Part :=
  ⟨l.expr.or r.expr, match l.expr with
    | .any _ => max l.depth (r.depth + 1)
    | _ => max l.depth r.depth + 1⟩

def pushPart (p : Part) (stack : List Part) : Except QueryError (List Part) :=
  if Expr.maxDepth < p.depth then .error .tooDeep else .ok (p :: stack)

def buildStep (stack : List Part) : Token → Except QueryError (List Part)
  | .ident text => pushPart ⟨.term text, 1⟩ stack
  | .not =>
    match stack with
    | p :: stack => pushPart p.not stack
    | [] => .error (.tooFewOperands .not)
  | t =>
    match stack with
    | r :: l :: stack => pushPart (if t = .or then l.or r else l.and r) stack
    | _ => .error (.tooFewOperands t.operator)

def build (postfixed : List Token) : Except QueryError Expr := do
  match ← postfixed.foldlM buildStep [] with
  | p :: _ => .ok p.expr
  | [] => .error .incomplete

def parseTokens (ts : List Token) : Except QueryError Expr := do
  let postfixed ← (toPostfix ts).mapError Rejection.error
  checkOperands postfixed
  build postfixed

def parse (query : String) : Except QueryError (Expr × TokenStream) := do
  let ts ← Lexer.lex .infixed query
  let e ← parseTokens ts
  return (e, .ofList ts)

end Retrieval.Query.Infixed
