import Retrieval.Json.Tree

namespace Retrieval

theorem length_le_utf8ByteSize (cs : List Char) : cs.length ≤ (String.ofList cs).utf8ByteSize := by
  induction cs with
  | nil => exact Nat.zero_le _
  | cons c cs ih =>
    have hc := c.utf8Size_pos
    rw [String.ofList_cons, String.utf8ByteSize_append, String.utf8ByteSize_singleton,
      List.length_cons]
    omega

theorem length_toList_le_of_fromUTF8? {content : ByteArray} {text : String}
    (h : String.fromUTF8? content = some text) : text.toList.length ≤ content.size := by
  have hl := length_le_utf8ByteSize text.toList
  rw [String.ofList_toList] at hl
  rw [String.fromUTF8?] at h
  split at h
  · next hv =>
    have hs : text.utf8ByteSize = content.size := by rw [← Option.some.inj h]; rfl
    rwa [hs] at hl
  · cases h

namespace Json

theorem Lexeme.length_ofChars_le (cs : List Char) : (ofChars cs).length ≤ cs.length := by
  fun_induction ofChars cs with
  | case1 => exact Nat.le_refl _
  | case2 c cs hb ih => exact Nat.le_succ_of_le ih
  | case3 c cs hb l n hr ih =>
    rw [List.length_drop] at ih
    rw [List.length_cons, List.length_cons]
    omega
  | case4 => exact Nat.le_add_left _ _

namespace Tree

def width : Tree → Nat
  | .array ts => ts.length
  | _ => 0

def openWidth (frames : List Frame) : Nat :=
  match frames.getLast? with
  | some (.array before) => before.length
  | _ => 0

/-- How many items the outermost value has with this one, which stands within the open ones. -/
def widthWithin (frames : List Frame) (t : Tree) : Nat :=
  match frames with
  | [] => t.width
  | _ :: _ => openWidth frames + 1

theorem le_openWidth {frames : List Frame} {t : Tree} {m n : Nat} (ht : t.width = 0)
    (h : m ≤ widthWithin frames t + n) : m ≤ openWidth frames + (n + 1) := by
  cases frames with
  | nil =>
    rw [widthWithin, ht] at h
    omega
  | cons f frames =>
    rw [widthWithin] at h
    omega

theorem openWidth_cons_cons (f g : Frame) (frames : List Frame) :
    openWidth (f :: g :: frames) = openWidth (g :: frames) := by
  rw [openWidth, openWidth, List.getLast?_cons_cons]

theorem openWidth_array_nil (frames : List Frame) :
    openWidth (.array [] :: frames) ≤ openWidth frames := by
  cases frames with
  | nil => exact Nat.le_refl _
  | cons f frames => exact Nat.le_of_eq (openWidth_cons_cons _ f frames)

theorem openWidth_object (before : List (Option String × Tree)) (key : Option String)
    (frames : List Frame) : openWidth (.object before key :: frames) ≤ openWidth frames := by
  cases frames with
  | nil => exact Nat.le_refl _
  | cons f frames => exact Nat.le_of_eq (openWidth_cons_cons _ f frames)

theorem openWidth_object_cons (m : Option String × Tree) (before : List (Option String × Tree))
    (key k : Option String) (frames : List Frame) :
    openWidth (.object (m :: before) k :: frames) ≤ openWidth (.object before key :: frames) := by
  cases frames with
  | nil => exact Nat.le_refl _
  | cons f frames => exact Nat.le_of_eq (by rw [openWidth_cons_cons, openWidth_cons_cons])

theorem openWidth_array_cons (t : Tree) (before : List Tree) (frames : List Frame) :
    openWidth (.array (t :: before) :: frames) ≤ openWidth (.array before :: frames) + 1 := by
  cases frames with
  | nil => exact Nat.le_refl _
  | cons f frames =>
    rw [openWidth_cons_cons, openWidth_cons_cons]
    exact Nat.le_succ _

theorem widthWithin_array (t : Tree) (before : List Tree) (frames : List Frame) :
    widthWithin frames (.array (t :: before).reverse) ≤
      openWidth (.array before :: frames) + 1 := by
  cases frames with
  | nil => simp [widthWithin, width, openWidth]
  | cons f frames => exact Nat.le_of_eq (by rw [widthWithin, openWidth_cons_cons])

theorem widthWithin_object (ms : List (Option String × Tree)) (f : Frame) (frames : List Frame) :
    widthWithin frames (.object ms) ≤ openWidth (f :: frames) + 1 := by
  cases frames with
  | nil => exact Nat.zero_le _
  | cons g frames => exact Nat.le_of_eq (by rw [widthWithin, openWidth_cons_cons])

theorem width_readValue_le (frames : List Frame) (ls : List Lexeme) :
    (readValue frames ls).2 = [] →
      (readValue frames ls).1.width ≤ openWidth frames + ls.length := by
  apply readValue.induct
    (fun frames ls => (readValue frames ls).2 = [] →
      (readValue frames ls).1.width ≤ openWidth frames + ls.length)
    (fun frames t ls => (readBehind frames t ls).2 = [] →
      (readBehind frames t ls).1.width ≤ widthWithin frames t + ls.length)
  case case1 =>
    intro frames ls ih h
    rw [readValue] at h ⊢
    exact le_openWidth rfl (ih h)
  case case2 | case3 | case4 =>
    intro frames _ ls ih h
    rw [readValue] at h ⊢
    exact le_openWidth rfl (ih h)
  case case5 | case7 =>
    intro frames ls ih h
    rw [readValue] at h ⊢
    exact Nat.le_succ_of_le (le_openWidth rfl (ih h))
  case case6 =>
    intro frames ls hn ih h
    rw [readValue] at h ⊢
    · have ho := openWidth_array_nil frames
      have hw := ih h
      rw [List.length_cons]
      omega
    all_goals exact hn
  case case8 =>
    intro frames key ls ih h
    rw [readValue] at h ⊢
    have ho := openWidth_object [] key frames
    have hw := ih h
    simp only [List.length_cons]
    omega
  case case9 | case10 | case11 =>
    intros
    rename_i h
    rw [readValue] at h
    · cases h
    all_goals assumption
  case case12 =>
    intro t ls h
    rw [readBehind] at h ⊢
    exact Nat.le_add_right _ _
  case case13 =>
    intro t before frames ls ih h
    rw [readBehind] at h ⊢
    have ho := openWidth_array_cons t before frames
    have hw := ih h
    rw [widthWithin, List.length_cons]
    omega
  case case14 =>
    intro t before frames ls ih h
    rw [readBehind] at h ⊢
    have ho := widthWithin_array t before frames
    have hw := ih h
    rw [widthWithin, List.length_cons]
    omega
  case case15 | case17 | case19 =>
    intros
    rename_i h
    rw [readBehind] at h
    · cases h
    all_goals assumption
  case case16 =>
    intro t before key frames k ls ih h
    rw [readBehind] at h ⊢
    have ho := openWidth_object_cons (key, t) before key k frames
    have hw := ih h
    simp only [widthWithin, List.length_cons]
    omega
  case case18 =>
    intro t before key frames ls ih h
    rw [readBehind] at h ⊢
    have ho := widthWithin_object ((key, t) :: before).reverse (.object before key) frames
    have hw := ih h
    rw [widthWithin, List.length_cons]
    omega

theorem length_settleItems {depth : Nat} {ts us : List Tree}
    (h : settleItems depth ts = some us) : us.length = ts.length := by
  induction ts generalizing us with
  | nil =>
    rw [settleItems] at h
    rw [← Option.some.inj h]
  | cons t ts ih =>
    rw [settleItems] at h
    obtain ⟨u, -, h⟩ := Option.bind_eq_some_iff.1 h
    obtain ⟨us', hus, h⟩ := Option.bind_eq_some_iff.1 h
    rw [← Option.some.inj h, List.length_cons, List.length_cons, ih hus]

theorem width_settle {depth : Nat} {t u : Tree} (h : settle depth t = some u) :
    u.width = t.width := by
  cases t with
  | array ts =>
    cases depth with
    | zero =>
      rw [settle] at h
      cases h
    | succ depth =>
      rw [settle] at h
      obtain ⟨us, hus, hu⟩ := Option.map_eq_some_iff.1 h
      rw [← hu, width, width, length_settleItems hus]
  | object ms =>
    cases depth with
    | zero =>
      rw [settle] at h
      cases h
    | succ depth =>
      rw [settle] at h
      obtain ⟨ms', -, hu⟩ := Option.map_eq_some_iff.1 h
      rw [← hu]
      rfl
  | number n =>
    rw [settle] at h
    split at h <;> cases h
    rfl
  | text s => cases s <;> cases h; rfl
  | null | bool | broken => cases h <;> rfl

/-- A document has no more items than characters. -/
theorem width_le_of_ofDocument? {text : String} {t : Tree} (h : ofDocument? text = some t) :
    t.width ≤ text.toList.length := by
  obtain ⟨u, hu, ht⟩ := Option.bind_eq_some_iff.1 h
  rw [width_settle ht]
  rw [ofText?] at hu
  split at hu
  · next v hv =>
    have hw := width_readValue_le [] (Lexeme.ofChars text.toList) (by rw [hv])
    have hl := Lexeme.length_ofChars_le text.toList
    rw [hv] at hw
    rw [← Option.some.inj hu]
    exact Nat.le_trans hw (Nat.le_trans (Nat.le_of_eq (Nat.zero_add _)) hl)
  · cases hu

end Tree

end Json

end Retrieval
