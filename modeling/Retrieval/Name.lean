namespace Retrieval

/-- A name that stands for nothing; the letters A to Z are in lower case already. -/
inductive UnknownName
  | language (name : String)
  | grammar (name : String)
  | ranking (name : String)
  deriving DecidableEq, Repr

def UnknownName.message : UnknownName → String
  | language name => "unsupported language '" ++ name ++ "'"
  | grammar name => "unknown grammar '" ++ name ++ "' (expected infix or prefix)"
  | ranking name => "unknown ranking '" ++ name ++ "' (expected none, tfidf or cosine)"

def lowerAscii (s : String) : String :=
  String.ofList (s.toList.map Char.toLower)

end Retrieval
