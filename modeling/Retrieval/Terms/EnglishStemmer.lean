namespace Retrieval.Terms.EnglishStemmer

def isVowel (c : Char) : Bool :=
  c == 'a' || c == 'e' || c == 'i' || c == 'o' || c == 'u' || c == 'y'

def endsWith (w : List Char) (suffix : String) : Bool :=
  suffix.toList.isSuffixOf w

def dropEnd (w : List Char) (n : Nat) : List Char :=
  w.take (w.length - n)

def longest? (w : List Char) (suffixes : List String) : Option String :=
  suffixes.find? (endsWith w)

def replaceEnd (w : List Char) (suffix new : String) : List Char :=
  dropEnd w suffix.length ++ new.toList

def irregular : List (String × String) :=
  [("skis", "ski"), ("skies", "sky"), ("dying", "die"), ("lying", "lie"), ("tying", "tie"),
    ("idly", "idl"), ("gently", "gentl"), ("ugly", "ugli"), ("early", "earli"), ("only", "onli"),
    ("singly", "singl"), ("sky", "sky"), ("news", "news"), ("howe", "howe"), ("atlas", "atlas"),
    ("cosmos", "cosmos"), ("bias", "bias"), ("andes", "andes")]

def invariants : List String :=
  ["inning", "outing", "canning", "herring", "earring", "proceed", "exceed", "succeed"]

/-- Writes `Y` for the letter where it is a consonant: first, or after a vowel. -/
def markConsonants : Option Char → List Char → List Char
  | _, [] => []
  | before, c :: cs =>
    let c := if c == 'y' && before.all isVowel then 'Y' else c
    c :: markConsonants (some c) cs

def unmark (w : List Char) : List Char :=
  w.map (fun c => if c == 'Y' then 'y' else c)

/-- The position after the first non-vowel that follows a vowel, from position `n` on; the end of
the word if there is none. -/
def regionFrom (n : Nat) (w : List Char) : Nat :=
  let fromVowel := (w.drop n).dropWhile (fun c => !isVowel c)
  let rest := (fromVowel.dropWhile isVowel).drop 1
  w.length - rest.length

/-- The two parts of a word in which suffixes are looked for, as positions where they start. -/
structure Regions where
  first : Nat
  second : Nat

def firstRegion (w : List Char) : Nat :=
  match ["commun", "gener", "arsen"].find? (·.toList.isPrefixOf w) with
  | some p => p.length
  | none => regionFrom 0 w

def regions (w : List Char) : Regions :=
  let first := firstRegion w
  ⟨first, regionFrom first w⟩

def Regions.inFirst (r : Regions) (w : List Char) (suffix : String) : Bool :=
  r.first + suffix.length ≤ w.length

def Regions.inSecond (r : Regions) (w : List Char) (suffix : String) : Bool :=
  r.second + suffix.length ≤ w.length

def endsInShortSyllable (w : List Char) : Bool :=
  match w.reverse with
  | [c, v] => !isVowel c && isVowel v
  | c :: v :: b :: _ =>
    !(isVowel c || c == 'w' || c == 'x' || c == 'Y') && isVowel v && !isVowel b
  | _ => false

def removePossessive (w : List Char) : List Char :=
  match longest? w ["'s'", "'s", "'"] with
  | some s => dropEnd w s.length
  | none => w

def removePlural (w : List Char) : List Char :=
  match longest? w ["sses", "ied", "ies", "us", "ss", "s"] with
  | some "sses" => dropEnd w 2
  | some "ied" | some "ies" => if 5 ≤ w.length then dropEnd w 2 else dropEnd w 1
  | some "s" => if (dropEnd w 2).any isVowel then dropEnd w 1 else w
  | _ => w

def repair (r : Regions) (w : List Char) : List Char :=
  match longest? w ["at", "bl", "iz", "bb", "dd", "ff", "gg", "mm", "nn", "pp", "rr", "tt"] with
  | some "at" | some "bl" | some "iz" => w ++ ['e']
  | some _ => dropEnd w 1
  | none => if w.length == r.first && endsInShortSyllable w then w ++ ['e'] else w

def removeInflection (r : Regions) (w : List Char) : List Char :=
  match longest? w ["eedly", "ingly", "edly", "eed", "ing", "ed"] with
  | none => w
  | some s =>
    if s == "eed" || s == "eedly" then
      if r.inFirst w s then replaceEnd w s "ee" else w
    else
      let stem := dropEnd w s.length
      if stem.any isVowel then repair r stem else w

def softenY (w : List Char) : List Char :=
  match w.reverse with
  | y :: c :: _ :: _ =>
    if (y == 'y' || y == 'Y') && !isVowel c then dropEnd w 1 ++ ['i'] else w
  | _ => w

def derivations : List (String × String) :=
  [("ational", "ate"), ("fulness", "ful"), ("iveness", "ive"), ("ization", "ize"),
    ("ousness", "ous"), ("biliti", "ble"), ("lessli", "less"), ("tional", "tion"),
    ("alism", "al"), ("aliti", "al"), ("ation", "ate"), ("entli", "ent"), ("fulli", "ful"),
    ("iviti", "ive"), ("ousli", "ous"), ("abli", "able"), ("alli", "al"), ("anci", "ance"),
    ("ator", "ate"), ("enci", "ence"), ("izer", "ize"), ("bli", "ble"), ("ogi", "og"), ("li", "")]

def allowsLi (c : Char) : Bool :=
  "cdeghkmnrt".toList.contains c

def shortenDerivation (r : Regions) (w : List Char) : List Char :=
  match derivations.find? (fun d => endsWith w d.1) with
  | none => w
  | some (s, new) =>
    let before := (dropEnd w s.length).getLast?
    if !r.inFirst w s then w
    else if s == "ogi" && before != some 'l' then w
    else if s == "li" && !before.any allowsLi then w
    else replaceEnd w s new

def adjectives : List (String × String) :=
  [("ational", "ate"), ("tional", "tion"), ("alize", "al"), ("ative", ""), ("icate", "ic"),
    ("iciti", "ic"), ("ical", "ic"), ("ness", ""), ("ful", "")]

def shortenAdjective (r : Regions) (w : List Char) : List Char :=
  match adjectives.find? (fun d => endsWith w d.1) with
  | none => w
  | some (s, new) =>
    if r.inFirst w s && (s != "ative" || r.inSecond w s) then replaceEnd w s new else w

def removeSuffix (r : Regions) (w : List Char) : List Char :=
  match longest? w ["ement", "able", "ance", "ence", "ible", "ment", "ant", "ate", "ent", "ion",
      "ism", "iti", "ive", "ize", "ous", "al", "er", "ic"] with
  | none => w
  | some s =>
    let stem := dropEnd w s.length
    if !r.inSecond w s then w
    else if s == "ion" && !stem.getLast?.any (fun c => c == 's' || c == 't') then w
    else stem

def removeFinal (r : Regions) (w : List Char) : List Char :=
  let stem := dropEnd w 1
  if endsWith w "e" then
    if r.inSecond w "e" || (r.inFirst w "e" && !endsInShortSyllable stem) then stem else w
  else if endsWith w "ll" && r.inSecond w "l" then stem
  else w

def stemRegular (w : List Char) : List Char :=
  let bare := match w with
    | '\'' :: cs => cs
    | _ => w
  let marked := markConsonants none bare
  let r := regions marked
  let singular := removePlural (removePossessive marked)
  let stem :=
    if invariants.any (fun i => i.toList == singular) then singular
    else
      removeFinal r (removeSuffix r (shortenAdjective r (shortenDerivation r
        (softenY (removeInflection r singular)))))
  if marked == bare then stem else unmark stem

def stem (w : List Char) : List Char :=
  match irregular.find? (fun p => p.1.toList == w) with
  | some p => p.2.toList
  | none => if w.length < 3 then w else stemRegular w

end Retrieval.Terms.EnglishStemmer
