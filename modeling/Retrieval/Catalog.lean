import Retrieval.Article.Basic
import Retrieval.Config
import Retrieval.Index.Basic

namespace Retrieval

open Terms

/-- The stop words of a language. A list that replaces them but cannot be read has no words. -/
def Config.stopWords (c : Config) (s : Storage) (l : Language) : StopWords :=
  match c.stopWordsPath l with
  | none => l.stopWords
  | some path =>
    match s.text? path with
    | some text => .ofText text
    | none => .empty

def Config.preprocessor (c : Config) (s : Storage) : Language → Preprocessor
  | .english => .english (c.stopWords s .english) EnglishStemmer.stem
  | .czech => .czech (c.stopWords s .czech) CzechStemmer.stem

/-- An index for each language that has documents. The stop words of a language are read when its
first document comes, from the files as they are then. -/
structure Catalog where
  config : Config
  files : Storage
  english : Option Index
  czech : Option Index

namespace Catalog

def empty (c : Config) (files : Storage) : Catalog :=
  ⟨c, files, none, none⟩

def on (c : Catalog) (files : Storage) : Catalog :=
  { c with files := files }

def index? (c : Catalog) : Language → Option Index
  | .english => c.english
  | .czech => c.czech

def setIndex (c : Catalog) (l : Language) (ix : Index) : Catalog :=
  match l with
  | .english => { c with english := some ix }
  | .czech => { c with czech := some ix }

/-- The index of a language, which is empty before it has documents. -/
def index (c : Catalog) (l : Language) : Index :=
  (c.index? l).getD (.empty (c.config.preprocessor c.files l))

def ensure (c : Catalog) (l : Language) : Catalog :=
  c.setIndex l (c.index l)

def addArticle (c : Catalog) (l : Language) (a : Article) (path : String) : Catalog × Bool :=
  let (ix, fresh) := (c.index l).addText a.indexableText path
  (c.setIndex l ix, fresh)

def missingIndex (l : Language) : String :=
  "There are no files indexed in the " ++ l.name ++ " language"

def languages (c : Catalog) : List Language :=
  Language.all.filter fun l => (c.index? l).isSome

def stats (c : Catalog) : List (Language × Index.Stats) :=
  c.languages.map fun l => (l, (c.index l).stats)

end Catalog

end Retrieval
