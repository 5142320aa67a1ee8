import Retrieval.Text.Alphabetic
import Retrieval.Text.LetterCase
import Retrieval.Text.NormalForm
import Retrieval.Text.Span
import Retrieval.Terms.StopWords
import Retrieval.Terms.EnglishStemmer
import Retrieval.Terms.CzechStemmer

namespace Retrieval.Terms

open Text

/-- What an index has to know about the language of its documents: the terms of a text in order,
the term of one word of a query, and the words that queries are not ranked by. -/
structure Preprocessor where
  terms : String → List String
  term : String → String
  isStopWord : String → Bool

namespace Preprocessor

def isWord (cs : List Char) : Bool :=
  cs.all fun c => Alphabetic.isAlphanumeric c || c == '\'' || c == '*'

def stemWord (stem : List Char → List Char) (cs : List Char) : List Char :=
  if isWord cs then stem cs else cs

/-- Stop words are recognised as they are written, before a span becomes a term. -/
def ofSpans (stopWords : StopWords) (term : String → String) : Preprocessor where
  terms text := ((Span.spans text).filter fun s => !stopWords.contains s).map term
  term := term
  isStopWord := stopWords.contains

def englishTerm (stem : List Char → List Char) (token : String) : String :=
  String.ofList (stemWord stem (LetterCase.lower (NormalForm.compatibilityComposed token.toList)))

def czechTerm (stem : List Char → List Char) (token : String) : String :=
  let decomposed := NormalForm.decomposed (LetterCase.lower token.toList)
  String.ofList (stemWord stem (decomposed.filter fun c => !Mark.contains c))

def english (stopWords : StopWords) (stem : List Char → List Char) : Preprocessor :=
  ofSpans stopWords (englishTerm stem)

/-- Diacritics are folded before the stem is taken. -/
def czech (stopWords : StopWords) (stem : List Char → List Char) : Preprocessor :=
  ofSpans stopWords (czechTerm stem)

end Preprocessor

end Retrieval.Terms
