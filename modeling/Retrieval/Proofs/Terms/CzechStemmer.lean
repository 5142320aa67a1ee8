import Mathlib.Data.List.Infix
import Retrieval.Terms.CzechStemmer

namespace Retrieval.Terms.CzechStemmer

variable {w : List Char} {n : Nat} {p b : Bool} {q : Option Bool}

section Places

/-- A place counted from the end of a word. There is none in front of the first character. -/
def fromEnd? (w : List Char) (n : Nat) : Option Nat :=
  if n ≤ w.length then some (w.length - n) else none

def read? (w : List Char) (n : Nat) : Option Char := do
  let i ← fromEnd? w n
  w[i]?

def write? (w : List Char) (n : Nat) (c : Char) : Option (List Char) := do
  let i ← fromEnd? w n
  if i < w.length then some (w.set i c) else none

def truncate? (w : List Char) (n : Nat) : Option (List Char) := do
  let i ← fromEnd? w n
  return w.take i

def both? (p : Bool) (q : Option Bool) : Option Bool :=
  if p then q else some false

def endsWith? (w : List Char) (ending : String) : Option Bool :=
  both? (ending.toList.length ≤ w.length) do
    let i ← fromEnd? w ending.toList.length
    return w.drop i == ending.toList

def endsWithAny? (w : List Char) (endings : List String) : Option Bool :=
  endings.anyM (endsWith? w)

theorem fromEnd?_of_le (h : n ≤ w.length) : fromEnd? w n = some (w.length - n) :=
  if_pos h

theorem truncate?_of_le (h : n ≤ w.length) : truncate? w n = some (w.take (w.length - n)) := by
  rw [truncate?, fromEnd?_of_le h]
  rfl

theorem both?_eq (h : p = true → q = some b) : both? p q = some (p && b) := by
  cases p with
  | false => rfl
  | true => simpa [both?] using h rfl

theorem both?_some (p b : Bool) : both? p (some b) = some (p && b) :=
  both?_eq fun _ => rfl

theorem endsWith_iff {ending : String} : endsWith w ending ↔ ending.toList <:+ w :=
  List.isSuffixOf_iff_suffix

theorem endsWith?_eq (w : List Char) (ending : String) :
    endsWith? w ending = some (endsWith w ending) := by
  have hb : endsWith w ending = (decide (ending.toList.length ≤ w.length) &&
      (w.drop (w.length - ending.toList.length) == ending.toList)) := by
    rw [Bool.eq_iff_iff, endsWith_iff, List.suffix_iff_eq_drop]
    simp only [Bool.and_eq_true, decide_eq_true_eq, beq_iff_eq]
    constructor
    · intro h
      exact ⟨(List.suffix_iff_eq_drop.2 h).length_le, h.symm⟩
    · rintro ⟨_, h⟩
      exact h.symm
  rw [hb, endsWith?]
  apply both?_eq
  intro hl
  rw [fromEnd?_of_le (by simpa using hl)]
  rfl

theorem endsWithAny?_eq (w : List Char) (endings : List String) :
    endsWithAny? w endings = some (endsWithAny w endings) := by
  induction endings with
  | nil => rfl
  | cons e es ih =>
    rw [endsWithAny?, List.anyM, endsWith?_eq, ← endsWithAny?, ih]
    change _ = some (endsWith w e || endsWithAny w es)
    cases endsWith w e <;> rfl

end Places

section Endings

def caseEndingLength? (w : List Char) : Option Nat := do
  if ← both? (7 < w.length) (endsWith? w "atech") then return 5
  else if ← both? (6 < w.length) (endsWithAny? w ["etem", "atum"]) then return 4
  else if ← both? (5 < w.length) (endsWithAny? w caseEndings) then return 3
  else if ← both? (4 < w.length) (endsWithAny? w shortCaseEndings) then return 2
  else if ← both? (3 < w.length) ((read? w 1).map isFinalVowel) then return 1
  else return 0

theorem map_isFinalVowel_read? (h : 0 < w.length) :
    (read? w 1).map isFinalVowel = some (w.getLast?.any isFinalVowel) := by
  have hi : w.length - 1 < w.length := by omega
  rw [read?, fromEnd?_of_le h, List.getLast?_eq_getElem?]
  simp [List.getElem?_eq_getElem hi]

theorem caseEndingLength?_eq (w : List Char) :
    caseEndingLength? w = some (caseEndingLength w) := by
  have hv : both? (3 < w.length) ((read? w 1).map isFinalVowel) =
      some (decide (3 < w.length) && w.getLast?.any isFinalVowel) := by
    apply both?_eq
    intro hl
    exact map_isFinalVowel_read? (Nat.zero_lt_of_lt (of_decide_eq_true hl))
  rw [caseEndingLength?, caseEndingLength, hv]
  simp only [endsWith?_eq, endsWithAny?_eq, both?_some, Bool.and_eq_true, decide_eq_true_eq,
    Option.bind_eq_bind, Option.bind_some, apply_ite some]
  rfl

theorem caseEndingLength_le (w : List Char) : caseEndingLength w ≤ 5 := by
  rw [caseEndingLength]
  split_ifs <;> omega

theorem caseEndingLength_cases (w : List Char) :
    caseEndingLength w = 0 ∨ caseEndingLength w + 3 ≤ w.length := by
  rw [caseEndingLength]
  split_ifs <;> omega

def possessiveLength (w : List Char) : Nat :=
  if 5 < w.length ∧ endsWithAny w ["ov", "in", "uv"] then 2 else 0

def possessiveLength? (w : List Char) : Option Nat := do
  if ← both? (5 < w.length) (endsWithAny? w ["ov", "in", "uv"]) then return 2
  else return 0

theorem removePossessive_eq (w : List Char) :
    removePossessive w = w.take (w.length - possessiveLength w) := by
  rw [removePossessive, possessiveLength]
  split
  · rfl
  · exact w.take_length.symm

theorem possessiveLength?_eq (w : List Char) :
    possessiveLength? w = some (possessiveLength w) := by
  rw [possessiveLength?, possessiveLength]
  simp only [endsWithAny?_eq, both?_some, Bool.and_eq_true, decide_eq_true_eq, Option.bind_eq_bind,
    Option.bind_some, apply_ite some]
  rfl

theorem possessiveLength_cases (w : List Char) :
    possessiveLength w = 0 ∨ possessiveLength w = 2 ∧ 5 < w.length := by
  rw [possessiveLength]
  split_ifs <;> omega

def root (w : List Char) : List Char :=
  removePossessive (removeCase w)

theorem root_isPrefix (w : List Char) : root w <+: w := by
  rw [root, removePossessive_eq]
  exact (List.take_prefix _ _).trans (List.take_prefix _ _)

theorem length_removeCase (w : List Char) :
    (removeCase w).length = w.length - caseEndingLength w := by
  simp [removeCase]

theorem length_root (w : List Char) : (root w).length =
    w.length - caseEndingLength w - possessiveLength (removeCase w) := by
  rw [root, removePossessive_eq, List.length_take, length_removeCase]
  omega

theorem length_le_root (w : List Char) : w.length ≤ (root w).length + 7 := by
  have hl := length_root w
  have hc := caseEndingLength_le w
  have hp := possessiveLength_cases (removeCase w)
  omega

theorem min_le_length_root (w : List Char) : min 3 w.length ≤ (root w).length := by
  have hl := length_root w
  have hr := length_removeCase w
  have hc := caseEndingLength_cases w
  have hp := possessiveLength_cases (removeCase w)
  omega

end Endings

section Consonant

def restoreConsonant? (w : List Char) : Option (List Char) := do
  if ← endsWith? w "ct" then write? w 1 'k'
  else if ← endsWith? w "st" then
    let w ← write? w 2 's'
    write? w 1 'k'
  else
    let last ← read? w 1
    if last = 'c' then write? w 1 'k'
    else if last = 'z' then write? w 1 'h'
    else if ← both? (1 < w.length) ((read? w 2).map (· == 'e')) then
      let w ← write? w 2 last
      truncate? w 1
    else return w

theorem exists_append_of_ne_nil (h : w ≠ []) : (∃ c, w = [c]) ∨ ∃ r b a, w = r ++ [b, a] := by
  obtain ⟨u, a, rfl⟩ := (List.eq_nil_or_concat w).resolve_left h
  rcases List.eq_nil_or_concat u with rfl | ⟨r, b, rfl⟩
  · exact .inl ⟨a, rfl⟩
  · exact .inr ⟨r, b, a, by simp⟩

theorem restoreConsonant_singleton (c : Char) :
    restoreConsonant [c] = if c = 'c' then ['k'] else if c = 'z' then ['h'] else [c] := by
  rw [restoreConsonant, List.reverse_singleton]
  split <;> simp_all

theorem restoreConsonant?_singleton (c : Char) :
    restoreConsonant? [c] = some (restoreConsonant [c]) := by
  have he : ∀ ending : String, 2 ≤ ending.toList.length → endsWith [c] ending = false := by
    intro ending h
    rw [← Bool.not_eq_true, endsWith_iff]
    intro hs
    exact absurd (h.trans hs.length_le) (by simp)
  rw [restoreConsonant?, restoreConsonant_singleton, endsWith?_eq, endsWith?_eq, he _ (by simp),
    he _ (by simp)]
  simp [read?, write?, fromEnd?, both?, apply_ite some]

variable (r : List Char) (b a : Char)

theorem restoreConsonant_append : restoreConsonant (r ++ [b, a]) =
    if b = 'c' ∧ a = 't' then r ++ [b, 'k'] else if b = 's' ∧ a = 't' then r ++ ['s', 'k']
    else if a = 'c' then r ++ [b, 'k'] else if a = 'z' then r ++ [b, 'h']
    else if b = 'e' then r ++ [a] else r ++ [b, a] := by
  have hr : (r ++ [b, a]).reverse = a :: b :: r.reverse := by simp
  rw [restoreConsonant, hr]
  split
  case h_1 he | h_2 he | h_3 he | h_4 he =>
    cases he
    simp
  case h_5 hc hz he =>
    cases he
    have hc' : a ≠ 'c' := hc
    have hz' : a ≠ 'z' := hz
    simp [hc', hz']
  case h_6 hct hst hc hz he =>
    have hct' : ¬(b = 'c' ∧ a = 't') := by
      rintro ⟨rfl, rfl⟩
      exact hct _ rfl
    have hst' : ¬(b = 's' ∧ a = 't') := by
      rintro ⟨rfl, rfl⟩
      exact hst _ rfl
    have hc' : a ≠ 'c' := by
      rintro rfl
      exact hc _ rfl
    have hz' : a ≠ 'z' := by
      rintro rfl
      exact hz _ rfl
    have he' : b ≠ 'e' := by
      rintro rfl
      exact he _ _ rfl
    rw [if_neg hct', if_neg hst', if_neg hc', if_neg hz', if_neg he']

theorem read?_append_one : read? (r ++ [b, a]) 1 = some a := by
  rw [read?, fromEnd?_of_le (by simp)]
  simp

theorem read?_append_two : read? (r ++ [b, a]) 2 = some b := by
  rw [read?, fromEnd?_of_le (by simp)]
  simp

theorem write?_append_one (c : Char) : write? (r ++ [b, a]) 1 c = some (r ++ [b, c]) := by
  rw [write?, fromEnd?_of_le (by simp)]
  simp

theorem write?_append_two (c : Char) : write? (r ++ [b, a]) 2 c = some (r ++ [c, a]) := by
  rw [write?, fromEnd?_of_le (by simp)]
  simp

theorem truncate?_append_one : truncate? (r ++ [b, a]) 1 = some (r ++ [b]) := by
  rw [truncate?_of_le (by simp)]
  simp [List.take_append]

theorem endsWith_append {ending : String} {x y : Char} (h : ending.toList = [x, y]) :
    endsWith (r ++ [b, a]) ending ↔ b = x ∧ a = y := by
  rw [endsWith_iff, h, ← List.reverse_prefix]
  simp [List.cons_prefix_cons, and_comm, eq_comm]

theorem restoreConsonant?_append :
    restoreConsonant? (r ++ [b, a]) = some (restoreConsonant (r ++ [b, a])) := by
  have hb : both? (1 < (r ++ [b, a]).length) ((read? (r ++ [b, a]) 2).map (· == 'e')) =
      some (b == 'e') := by
    simp [both?, read?_append_two]
  have hct : endsWith (r ++ [b, a]) "ct" ↔ b = 'c' ∧ a = 't' := endsWith_append r b a rfl
  have hst : endsWith (r ++ [b, a]) "st" ↔ b = 's' ∧ a = 't' := endsWith_append r b a rfl
  rw [restoreConsonant?, restoreConsonant_append]
  simp only [endsWith?_eq, hct, hst, read?_append_one, write?_append_one, write?_append_two,
    truncate?_append_one, hb, Option.bind_eq_bind, Option.bind_some, beq_iff_eq, apply_ite some]
  rfl

theorem restoreConsonant?_eq (h : w ≠ []) : restoreConsonant? w = some (restoreConsonant w) := by
  rcases exists_append_of_ne_nil h with ⟨c, rfl⟩ | ⟨r, b, a, rfl⟩
  · exact restoreConsonant?_singleton c
  · exact restoreConsonant?_append r b a

theorem restoreConsonant_cases (h : w ≠ []) :
    (∃ c, restoreConsonant w = w.dropLast ++ [c]) ∨
      ∃ r a, w = r ++ ['e', a] ∧ restoreConsonant w = r ++ [a] := by
  rcases exists_append_of_ne_nil h with ⟨c, rfl⟩ | ⟨r, b, a, rfl⟩
  · rw [restoreConsonant_singleton]
    left
    split_ifs
    · exact ⟨'k', rfl⟩
    · exact ⟨'h', rfl⟩
    · exact ⟨c, rfl⟩
  · have hd : ∀ c, r ++ [b, c] = (r ++ [b, a]).dropLast ++ [c] := by simp
    rw [restoreConsonant_append]
    split_ifs with hct hst hc hz he
    · exact .inl ⟨'k', hd 'k'⟩
    · obtain ⟨rfl, rfl⟩ := hst
      exact .inl ⟨'k', hd 'k'⟩
    · exact .inl ⟨'k', hd 'k'⟩
    · exact .inl ⟨'h', hd 'h'⟩
    · subst he
      exact .inr ⟨r, a, rfl, rfl⟩
    · exact .inl ⟨a, hd a⟩

theorem dropLast_restoreConsonant_isPrefix (w : List Char) :
    (restoreConsonant w).dropLast <+: w := by
  by_cases hn : w = []
  · subst hn
    exact List.nil_prefix
  · rcases restoreConsonant_cases hn with ⟨c, hc⟩ | ⟨r, a, rfl, hr⟩
    · rw [hc, List.dropLast_concat]
      exact List.dropLast_prefix w
    · rw [hr, List.dropLast_concat]
      exact List.prefix_append r _

theorem length_restoreConsonant (w : List Char) :
    (restoreConsonant w).length = w.length ∨
      2 ≤ w.length ∧ (restoreConsonant w).length + 1 = w.length := by
  by_cases hn : w = []
  · subst hn
    exact .inl rfl
  · rcases restoreConsonant_cases hn with ⟨c, hc⟩ | ⟨r, a, rfl, hr⟩
    · left
      have hp := List.length_pos_iff.2 hn
      rw [hc, List.length_append, List.length_dropLast, List.length_singleton]
      omega
    · right
      rw [hr]
      simp

end Consonant

/-- A stem as it is found in place. There is none if a place is read or written that the word does
not have, or if the word would have to be cut in front of its first character. -/
def stem? (w : List Char) : Option (List Char) := do
  let w ← truncate? w (← caseEndingLength? w)
  let w ← truncate? w (← possessiveLength? w)
  if w.isEmpty then return w else restoreConsonant? w

theorem stem_eq (w : List Char) : stem w = restoreConsonant (root w) := rfl

theorem stem?_eq (w : List Char) : stem? w = some (stem w) := by
  have hc : caseEndingLength w ≤ w.length := by
    have h := caseEndingLength_cases w
    omega
  have hp : possessiveLength (removeCase w) ≤ (removeCase w).length := by
    have h := possessiveLength_cases (removeCase w)
    omega
  rw [stem?, caseEndingLength?_eq]
  simp only [Option.bind_eq_bind, Option.bind_some]
  rw [truncate?_of_le hc, Option.bind_some, ← removeCase, possessiveLength?_eq, Option.bind_some,
    truncate?_of_le hp, Option.bind_some, ← removePossessive_eq, ← root, stem_eq]
  -- what is left of the word is looked at only if there is something left
  cases hr : root w with
  | nil => rfl
  | cons c cs => exact restoreConsonant?_eq (List.cons_ne_nil c cs)

/-- A stem is found without a look at a place that the word does not have. But for its last letter
it is the start of the word, and it is not much shorter. -/
structure Shortens (w : List Char) : Prop where
  stem?_eq : stem? w = some (stem w)
  eq_nil_iff : stem w = [] ↔ w = []
  length_le : (stem w).length ≤ w.length
  length_le_add : w.length ≤ (stem w).length + 8
  two_le_length : 3 ≤ w.length → 2 ≤ (stem w).length
  dropLast_isPrefix : (stem w).dropLast <+: w

theorem shortens (w : List Char) : Shortens w := by
  have hl := length_restoreConsonant (root w)
  have hr := (root_isPrefix w).length_le
  have hm := min_le_length_root w
  have ha := length_le_root w
  rw [← stem_eq] at hl
  constructor
  case stem?_eq => exact CzechStemmer.stem?_eq w
  case eq_nil_iff =>
    rw [← List.length_eq_zero_iff, ← List.length_eq_zero_iff]
    omega
  case length_le => omega
  case length_le_add => omega
  case two_le_length => omega
  case dropLast_isPrefix =>
    rw [stem_eq]
    exact (dropLast_restoreConsonant_isPrefix _).trans (root_isPrefix w)

/-- The bound is met: a case ending, a possessive ending and a vowel are dropped. -/
example : stem "tatkeninatech".toList = "tatkn".toList := by decide

end Retrieval.Terms.CzechStemmer
