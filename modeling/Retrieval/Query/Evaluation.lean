import Retrieval.Index.Basic
import Retrieval.Query.Expr

namespace Retrieval.Query.Expr

open Index

mutual

def evaluate (ix : Index) : Expr → DocList
  | .term text => ix.documents (ix.preprocessor.term text)
  | .not e => (evaluate ix e).not ix.allDocuments
  | .all [] => .empty
  | .all (e :: es) => evaluateAll ix (evaluate ix e) es
  | .any es => evaluateAny ix .empty es

/-- Once no document is left, the remaining operands are not looked at. -/
def evaluateAll (ix : Index) (found : DocList) : List Expr → DocList
  | [] => found
  | e :: es => if found.isEmpty then found else evaluateAll ix (found.and (evaluate ix e)) es

def evaluateAny (ix : Index) (found : DocList) : List Expr → DocList
  | [] => found
  | e :: es => evaluateAny ix (found.or (evaluate ix e)) es

end

end Retrieval.Query.Expr
