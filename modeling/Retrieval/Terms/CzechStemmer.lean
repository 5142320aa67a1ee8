namespace Retrieval.Terms.CzechStemmer

def caseEndings : List String :=
  ["ech", "ich", "eho", "emi", "emu", "ete", "eti", "iho", "imi", "imu", "ach", "ata", "aty",
    "ych", "ama", "ami", "ove", "ovi", "ymi"]

def shortCaseEndings : List String :=
  ["em", "es", "im", "um", "at", "am", "os", "us", "ym", "mi", "ou"]

def endsWith (w : List Char) (ending : String) : Bool :=
  ending.toList.isSuffixOf w

def endsWithAny (w : List Char) (endings : List String) : Bool :=
  endings.any (endsWith w)

def isFinalVowel (c : Char) : Bool :=
  c == 'a' || c == 'e' || c == 'i' || c == 'o' || c == 'u' || c == 'y'

/-- The number of letters in the case ending; the longer the ending, the longer the word has to
be. -/
def caseEndingLength (w : List Char) : Nat :=
  if 7 < w.length ∧ endsWith w "atech" then 5
  else if 6 < w.length ∧ endsWithAny w ["etem", "atum"] then 4
  else if 5 < w.length ∧ endsWithAny w caseEndings then 3
  else if 4 < w.length ∧ endsWithAny w shortCaseEndings then 2
  else if 3 < w.length ∧ w.getLast?.any isFinalVowel then 1
  else 0

def removeCase (w : List Char) : List Char :=
  w.take (w.length - caseEndingLength w)

def removePossessive (w : List Char) : List Char :=
  if 5 < w.length ∧ endsWithAny w ["ov", "in", "uv"] then w.take (w.length - 2) else w

/-- Undoes the change of the last consonant, and drops an inserted vowel before it. -/
def restoreConsonant (w : List Char) : List Char :=
  match w.reverse with
  | 't' :: 'c' :: r => ('k' :: 'c' :: r).reverse
  | 't' :: 's' :: r => ('k' :: 's' :: r).reverse
  | 'c' :: r => ('k' :: r).reverse
  | 'z' :: r => ('h' :: r).reverse
  | c :: 'e' :: r => (c :: r).reverse
  | _ => w

def stem (w : List Char) : List Char :=
  restoreConsonant (removePossessive (removeCase w))

end Retrieval.Terms.CzechStemmer
