import Retrieval.Proofs.Index.Accepted
import Retrieval.Proofs.Index.Growth

namespace Retrieval.Index

def Taken (ix : Index) (cs : List Change) (path : String) : Prop :=
  ∃ earlier text later, cs = earlier ++ .text text path :: later ∧
    ((ix.run earlier).addText text path).2 = true

def answers (ix : Index) : List Change → List Bool
  | [] => []
  | .occurrence term d path :: cs => answers (ix.addOccurrence term d path) cs
  | .text text path :: cs => (ix.addText text path).2 :: answers (ix.addText text path).1 cs

variable {ix : Index} {cs : List Change} {docs : List Document} {d : DocId} {path : String}

theorem run_append (ix : Index) (cs cs' : List Change) : ix.run (cs ++ cs') = (ix.run cs).run cs' :=
  List.foldl_append

theorem not_taken_nil (ix : Index) (path : String) : ¬ix.Taken [] path := by
  rintro ⟨earlier, text, later, h, _⟩
  simp at h

theorem taken_cons {c : Change} : ix.Taken (c :: cs) path ↔
    (∃ text, c = .text text path ∧ (ix.addText text path).2 = true) ∨
      (ix.apply c).Taken cs path := by
  constructor
  · rintro ⟨earlier, text, later, h, ha⟩
    cases earlier with
    | nil =>
      obtain ⟨rfl, rfl⟩ := List.cons.inj h
      exact .inl ⟨text, rfl, ha⟩
    | cons c' earlier =>
      obtain ⟨rfl, rfl⟩ := List.cons.inj h
      exact .inr ⟨earlier, text, later, rfl, ha⟩
  · rintro (⟨text, rfl, ha⟩ | ⟨earlier, text, later, rfl, ha⟩)
    · exact ⟨[], text, cs, rfl, ha⟩
    · exact ⟨c :: earlier, text, later, rfl, ha⟩

theorem mem_seenPaths_run :
    path ∈ (ix.run cs).seenPaths ↔ path ∈ ix.seenPaths ∨ ix.Taken cs path := by
  induction cs generalizing ix with
  | nil => simp [run, not_taken_nil]
  | cons c cs ih =>
    have hr : ix.run (c :: cs) = (ix.apply c).run cs := rfl
    rw [hr, ih, taken_cons, ← or_assoc]
    -- the later changes do the same on both sides: what the first one does is left
    apply or_congr_left
    cases c with
    | occurrence term d path' => simp [apply, addOccurrence]
    | text text path' =>
      by_cases ha : ix.accepts path'
      · rw [apply, mem_seenPaths_addText ha]
        constructor
        · rintro (rfl | hs)
          · exact .inr ⟨text, rfl, by rw [addText_snd, ha]⟩
          · exact .inl hs
        · rintro (hs | ⟨_, he, _⟩)
          · exact .inr hs
          · cases he
            exact .inl rfl
      · rw [apply, addText_of_not_accepts ha]
        constructor
        · exact .inl
        · rintro (hs | ⟨_, he, ht⟩)
          · exact hs
          · cases he
            rw [addText_snd] at ht
            exact absurd ht ha

theorem documentCount_run (ix : Index) (cs : List Change) :
    (ix.run cs).documentCount = ix.documentCount + (ix.answers cs).count true := by
  induction cs generalizing ix with
  | nil => rfl
  | cons c cs ih =>
    have hr : ix.run (c :: cs) = (ix.apply c).run cs := rfl
    rw [hr, ih]
    cases c with
    | occurrence term d path => rfl
    | text text path =>
      rw [apply, answers, documentCount_addText, List.count_cons, addText_snd]
      cases ix.accepts path <;> simp [Nat.add_assoc, Nat.add_comm]

/-- The second index has a text more than the first one, under an id that nothing has had. -/
structure AddsDocument (ix ix' : Index) (d : DocId) (text path : String) : Prop where
  filePath_before : ix.filePath d = .error (.notIndexed d)
  no_bag_before : d ∉ ix.bags
  filePath_after : ix'.filePath d = .ok path
  occurrences_after : ∀ term, ix'.occurrences d term = (ix.preprocessor.terms text).count term
  filePath_of_ne : ∀ d' ≠ d, ix'.filePath d' = ix.filePath d'
  bags_of_ne : ∀ d' ≠ d, ix'.bags[d']? = ix.bags[d']?

theorem filePath_of_notMem (h : d ∉ ix.filePaths) : ix.filePath d = .error (.notIndexed d) := by
  rw [filePath, Std.TreeMap.getElem?_eq_none h]

theorem Frontier.addsDocument (h : ix.Frontier) (hc : ix.Consistent) (ha : ix.accepts path)
    (text : String) : AddsDocument ix (ix.addText text path).1 ix.nextId text path := by
  have hn := h.nextId_notMem (ne_last_of_accepts ha)
  have hb : ix.nextId ∉ ix.bags := fun hm => hn (mem_filePaths_iff.2 (hc.hasPath _ hm))
  constructor
  case filePath_before => exact filePath_of_notMem hn
  case no_bag_before => exact hb
  case filePath_after => rw [filePath_eq_ok_iff, filePaths_addText ha, if_pos rfl]
  case occurrences_after =>
    intro term
    rw [occurrences_addText ha, if_pos rfl, occurrences, Std.TreeMap.getElem?_eq_none hb]
    exact Nat.zero_add _
  case filePath_of_ne =>
    intro d hd
    rw [filePath, filePath, filePaths_addText ha, if_neg (Ne.symm hd)]
  case bags_of_ne =>
    intro d hd
    rw [addText_of_accepts ha]
    exact bags_addTerms (ix.register path) _ ix.nextId path (Ne.symm hd)

/-- The greatest id leaves none for texts. -/
theorem nextId_run_of_occurrence_last {term : String}
    (h : .occurrence term DocId.last path ∈ cs) (hf : ix.Frontier) :
    (ix.run cs).nextId = DocId.last := by
  obtain ⟨earlier, later, rfl⟩ := List.append_of_mem h
  have hr : ix.run (earlier ++ .occurrence term DocId.last path :: later) =
      ((ix.run earlier).addOccurrence term DocId.last path).run later := run_append ix earlier _
  have hn : ((ix.run earlier).addOccurrence term DocId.last path).nextId = DocId.last := by
    rw [addOccurrence, DocId.next_last]
    exact if_neg (UInt32.not_lt.2 (DocId.le_last _))
  -- the next id never goes down again, and there is none above the last
  have hl := (Grows.run ((hf.run earlier).addOccurrence term DocId.last path) later).nextId_le
  rw [hn] at hl
  rw [hr]
  exact UInt32.le_antisymm (DocId.le_last _) hl

def Change.IsText : Change → Prop
  | .occurrence _ _ _ => False
  | .text _ _ => True

def Document.change (doc : Document) : Change :=
  .text doc.text doc.path

theorem exists_map_change (h : ∀ c ∈ cs, c.IsText) :
    ∃ docs : List Document, cs = docs.map Document.change := by
  induction cs with
  | nil => exact ⟨[], rfl⟩
  | cons c cs ih =>
    rw [List.forall_mem_cons] at h
    obtain ⟨docs, rfl⟩ := ih h.2
    cases c with
    | occurrence term d path => exact h.1.elim
    | text text path => exact ⟨⟨text, path⟩ :: docs, rfl⟩

theorem run_map_change (ix : Index) (docs : List Document) :
    ix.run (docs.map Document.change) = (ix.addTexts docs).1 := by
  induction docs generalizing ix with
  | nil => rfl
  | cons doc docs ih =>
    rw [fst_addTexts_cons, ← ih]
    rfl

theorem Comprises.exists_path_iff (h : ix.Comprises docs) :
    (∃ path, ix.filePath d = .ok path) ↔ d.toNat < ix.documentCount := by
  simp only [h.filePath_eq_ok_iff, h.documentCount_eq]
  constructor
  · rintro ⟨_, doc, hd, _⟩
    exact (List.getElem?_eq_some_iff.1 hd).1
  · intro hd
    exact ⟨_, docs[d.toNat], List.getElem?_eq_getElem hd, rfl⟩

/-- What has been put into an index stays in it as it is. -/
structure AppendOnly (p : Terms.Preprocessor) (cs : List Change) : Prop where
  grows : ∀ later, Grows ((empty p).run cs) ((empty p).run (cs ++ later))
  adds : ∀ text path, (((empty p).run cs).addText text path).2 = true →
    AddsDocument ((empty p).run cs) (((empty p).run cs).addText text path).1
      ((empty p).run cs).nextId text path
  eq_of_refused : ∀ text path, (((empty p).run cs).addText text path).2 = false →
    (((empty p).run cs).addText text path).1 = (empty p).run cs
  refused_iff : ∀ text path, (((empty p).run cs).addText text path).2 = false ↔
    (empty p).Taken cs path ∨ ((empty p).run cs).nextId = DocId.last
  /-- There is no id left as soon as one of the two greatest is in use. -/
  nextId_eq_last_iff : ((empty p).run cs).nextId = DocId.last ↔
    ∃ d path, ((empty p).run cs).filePath d = .ok path ∧ DocId.next d = DocId.last
  refused_of_last : ∀ term path', .occurrence term DocId.last path' ∈ cs →
    ∀ text path, (((empty p).run cs).addText text path).2 = false
  documentCount_eq : ((empty p).run cs).documentCount = ((empty p).answers cs).count true
  exists_path_iff : (∀ c ∈ cs, c.IsText) → ∀ d,
    (∃ path, ((empty p).run cs).filePath d = .ok path) ↔
      d.toNat < ((empty p).run cs).documentCount
  filePath_inj : (∀ c ∈ cs, c.IsText) → ∀ d d' path, ((empty p).run cs).filePath d = .ok path →
    ((empty p).run cs).filePath d' = .ok path → d = d'

theorem appendOnly (p : Terms.Preprocessor) (cs : List Change) : AppendOnly p cs := by
  have hc := (consistent_empty p).run cs
  have hf := (frontier_empty p).run cs
  have ht : (∀ c ∈ cs, c.IsText) → ∃ docs, ((empty p).run cs).Comprises docs := by
    intro h
    obtain ⟨docs, rfl⟩ := exists_map_change h
    rw [run_map_change]
    exact ⟨_, (comprises_empty p).addTexts docs⟩
  have hr : ∀ text path, (((empty p).run cs).addText text path).2 = false ↔
      (empty p).Taken cs path ∨ ((empty p).run cs).nextId = DocId.last := by
    intro text path
    have hs : path ∉ (empty p).seenPaths := Std.TreeSet.not_mem_emptyc
    rw [addText_snd, ← Bool.not_eq_true, accepts_iff, mem_seenPaths_run]
    tauto
  constructor
  case grows =>
    intro later
    rw [run_append]
    exact Grows.run hf later
  case adds =>
    intro text path h
    rw [addText_snd] at h
    exact hf.addsDocument hc h text
  case eq_of_refused =>
    intro text path h
    rw [addText_snd, ← Bool.not_eq_true] at h
    rw [addText_of_not_accepts h]
  case refused_iff => exact hr
  case nextId_eq_last_iff =>
    rw [hf.nextId_eq_last_iff]
    simp only [mem_filePaths_iff]
    tauto
  case refused_of_last =>
    intro term path' h text path
    exact (hr text path).2 (.inr (nextId_run_of_occurrence_last h (frontier_empty p)))
  case documentCount_eq =>
    have hd := documentCount_run (empty p) cs
    rwa [empty, Nat.zero_add] at hd
  case exists_path_iff =>
    intro h d
    obtain ⟨docs, hd⟩ := ht h
    exact hd.exists_path_iff
  case filePath_inj =>
    intro h d d' path hp hp'
    obtain ⟨docs, hd⟩ := ht h
    exact hd.filePath_inj hp hp'

end Retrieval.Index
