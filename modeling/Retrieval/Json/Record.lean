import Retrieval.Json.Tree

namespace Retrieval.Json

/-- The two reasons why a text is not what it should be: it is no value at all, or another one. -/
inductive Refusal
  | malformed
  | mismatched
  deriving DecidableEq, Repr

namespace Tree

def refusal : Tree → Refusal
  | .broken | .text none => .malformed
  | .number n => if n.isFinite then .mismatched else .malformed
  | _ => .mismatched

def asText : Tree → Except Refusal String
  | .text (some s) => .ok s
  | t => .error t.refusal

def asOptionalText : Tree → Except Refusal (Option String)
  | .null => .ok none
  | t => t.asText.map some

def asTexts : Tree → Except Refusal (List String)
  | .array ts => ts.mapM asText
  | t => .error t.refusal

def asCount (t : Tree) : Except Refusal Nat :=
  match t with
  | .number n =>
    match n.natural? with
    | some k => if k < Decimal.Natural.wordLimit then .ok k else .error t.refusal
    | none => .error t.refusal
  | t => .error t.refusal

end Tree

/-- A record is an object, whose members may come in any order, or an array of its fields in the
order of their names. `put` reads one field into what has been read so far. -/
structure Record (σ : Type) where
  fields : List String
  required : Nat
  unread : σ
  put : σ → String → Tree → Except Refusal σ

namespace Record

variable {σ α : Type}

def once (field : Option α) (read : Tree → Except Refusal α) (t : Tree) :
    Except Refusal (Option α) :=
  if field.isSome then .error .mismatched else (read t).map some

/-- Members that are no fields are passed over. -/
def readMembers (r : Record σ) : σ → List (Option String × Tree) → Except Refusal σ
  | s, [] => .ok s
  | _, (none, _) :: _ => .error .malformed
  | s, (some key, t) :: ms =>
    if key ∈ r.fields then
      match r.put s key t with
      | .ok s => readMembers r s ms
      | .error e => .error e
    else if t.isWhole then readMembers r s ms
    else .error .malformed

def readItems (r : Record σ) : σ → List String → List Tree → Except Refusal σ
  | s, _, [] => .ok s
  | _, [], _ :: _ => .error .malformed
  | s, field :: fields, t :: ts =>
    match r.put s field t with
    | .ok s => readItems r s fields ts
    | .error e => .error e

/-- What comes first in the text decides between two refusals. -/
def read (r : Record σ) : Tree → Except Refusal σ
  | .object ms => r.readMembers r.unread ms
  | .array ts =>
    match r.readItems r.unread r.fields ts with
    | .ok s => if ts.length < r.required then .error .mismatched else .ok s
    | .error e => .error e
  | t => .error t.refusal

end Record

end Retrieval.Json
