import Std.Data.TreeSet
import Retrieval.Text.Lines

namespace Retrieval.Terms

structure StopWords where
  words : Std.TreeSet String

namespace StopWords

def empty : StopWords :=
  ⟨∅⟩

def ofWords (ws : List String) : StopWords :=
  ⟨.ofList ws⟩

def dropReturns (cs : List Char) : List Char :=
  (cs.reverse.dropWhile (· == '\r')).reverse

/-- One word a line; empty lines and the carriage returns at the end of a line do not count. -/
def ofText (text : String) : StopWords :=
  ofWords (((Text.Lines.splitOn '\n' text.toList).map dropReturns).filterMap fun
    | [] => none
    | w => some (String.ofList w))

def contains (s : StopWords) (w : String) : Bool :=
  s.words.contains w

def size (s : StopWords) : Nat :=
  s.words.size

def isEmpty (s : StopWords) : Bool :=
  s.words.isEmpty

def english : StopWords :=
  ofWords [
    "a", "about", "above", "after", "again", "against", "all", "am", "an", "and", "any", "are",
    "aren't", "as", "at", "be", "because", "been", "before", "being", "below", "between", "both",
    "but", "by", "can", "can't", "cannot", "could", "couldn't", "did", "didn't", "do", "does",
    "doesn't", "doing", "don't", "down", "during", "each", "few", "for", "from", "further", "had",
    "hadn't", "has", "hasn't", "have", "haven't", "having", "he", "he'd", "he'll", "he's", "her",
    "here", "here's", "hers", "herself", "him", "himself", "his", "how", "how's", "i", "i'd",
    "i'll", "i'm", "i've", "if", "in", "into", "is", "isn't", "it", "it's", "its", "itself",
    "let's", "me", "more", "most", "mustn't", "my", "myself", "no", "nor", "not", "of", "off",
    "on", "once", "only", "or", "other", "ought", "our", "ours", "ourselves", "out", "over", "own",
    "same", "she", "she'd", "she'll", "she's", "should", "shouldn't", "so", "some", "such", "than",
    "that", "that's", "the", "their", "theirs", "them", "themselves", "then", "there", "there's",
    "these", "they", "they'd", "they'll", "they're", "they've", "this", "those", "through", "to",
    "too", "under", "until", "up", "very", "was", "wasn't", "we", "we'd", "we'll", "we're",
    "we've", "were", "weren't", "what", "what's", "when", "when's", "where", "where's", "which",
    "while", "who", "who's", "whom", "why", "why's", "with", "won't", "would", "wouldn't", "you",
    "you'd", "you'll", "you're", "you've", "your", "yours", "yourself", "yourselves"]

def czech : StopWords :=
  ofWords [
    "a", "aby", "aj", "ale", "ani", "aniž", "ano", "asi", "až", "bez", "bude", "budem", "budeme",
    "budete", "budou", "budu", "by", "byl", "byla", "byli", "bylo", "byly", "bys", "být", "co",
    "což", "cz", "či", "článek", "článku", "články", "další", "dnes", "do", "ho", "i", "já", "jak",
    "jaké", "jako", "je", "jeho", "jej", "její", "jejich", "jen", "jenž", "ještě", "ji", "jiné",
    "již", "jsem", "jsi", "jsme", "jsou", "jste", "k", "kam", "kde", "kdo", "když", "ke", "která",
    "které", "kterou", "který", "kteří", "ku", "ma", "má", "mají", "mě", "mezi", "mi", "mít",
    "mně", "mnou", "moje", "můj", "může", "my", "na", "nad", "nám", "napište", "náš", "naši", "ne",
    "nebo", "nechť", "nejsou", "není", "než", "ni", "nic", "nové", "nový", "o", "od", "ode", "on",
    "ona", "oni", "ono", "pak", "po", "pod", "podle", "pokud", "pouze", "práve", "pro", "proč",
    "proto", "protože", "první", "před", "přede", "přes", "při", "pta", "re", "s", "se", "si",
    "sice", "své", "svůj", "svých", "svým", "svými", "ta", "tak", "také", "takže", "tato", "te",
    "tě", "tedy", "těma", "ten", "tento", "této", "tím", "tímto", "tipy", "to", "tohle", "toho",
    "tohoto", "tom", "tomto", "tomuto", "toto", "tu", "tuto", "ty", "tyto", "u", "už", "v", "vám",
    "váš", "vaše", "ve", "více", "však", "všechen", "vy", "z", "za", "zde", "ze", "že"]

end StopWords

end Retrieval.Terms
