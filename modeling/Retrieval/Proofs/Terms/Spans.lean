import Mathlib.Data.List.Pairwise
import Mathlib.Logic.ExistsUnique
import Retrieval.Proofs.Text.Places
import Retrieval.Terms.Preprocessor

namespace Retrieval.Terms

open Text Span

variable {text s : String} {m : Match}

theorem mem_spans_iff : s ∈ spans text ↔
    ∃ m ∈ scan text.toList, m.kind ≠ .tag ∧ String.ofList m.text = s := by
  simp only [spans, List.mem_filterMap]
  refine exists_congr fun m => and_congr_right fun _ => ?_
  split
  · next hk => simp [hk]
  · next hk => simp [hk]

theorem exists_first?_of_mem_scan (h : m ∈ scan text.toList) :
    ∃ e ∈ located 0 text.toList, e.2 = m ∧ first? (text.toList.drop e.1) = some m := by
  rw [← map_snd_located 0] at h
  obtain ⟨e, he, rfl⟩ := List.mem_map.1 h
  exact ⟨e, he, rfl, ((leftmost_located 0 text.toList).first?_eq e he).2⟩

theorem spans_self (h : s ∈ spans text) : spans s = [s] := by
  obtain ⟨m, hm, hk, rfl⟩ := mem_spans_iff.1 h
  obtain ⟨e, -, -, hf⟩ := exists_first?_of_mem_scan hm
  rw [spans, String.toList_ofList, scan_self hf]
  simp [hk]

theorem terms_ofSpans_self {stopWords : StopWords} (term : String → String) (h : s ∈ spans text)
    (hs : ¬stopWords.contains s) : (Preprocessor.ofSpans stopWords term).terms s = [term s] ∧
      term s ∈ (Preprocessor.ofSpans stopWords term).terms text := by
  simp only [Preprocessor.ofSpans]
  constructor
  · rw [spans_self h]
    simp [hs]
  · exact List.mem_map_of_mem (List.mem_filter.2 ⟨h, by simp [hs]⟩)

def places (text : String) : List Place :=
  located 0 text.toList

/-- The spans of a text and the tags between them have all its words, and they are spans when they
stand alone, with the same terms. -/
structure KeepsWords (text : String) : Prop where
  map_snd_places : (places text).map Prod.snd = scan text.toList
  match?_eq : ∀ e ∈ places text, expression.match? (text.toList.drop e.1) = some e.2.text
  preferred?_eq : ∀ e ∈ places text, preferred? (text.toList.drop e.1) = some e.2
  match?_eq_none : ∀ i < text.toList.length, (∀ e ∈ places text, ¬Covers e i) →
    expression.match? (text.toList.drop i) = none
  prefix_drop : ∀ e ∈ places text, e.2.text <+: text.toList.drop e.1
  ne_nil : ∀ e ∈ places text, e.2.text ≠ []
  ordered : (places text).Pairwise fun a b => a.1 + a.2.text.length ≤ b.1
  existsUnique_covers : ∀ i c, text.toList[i]? = some c → isWordChar c →
    ∃! e, e ∈ places text ∧ Covers e i
  span_or_tag : ∀ e ∈ places text, e.2.kind ≠ .tag ∧ String.ofList e.2.text ∈ spans text ∨
    e.2.kind = .tag ∧ ∃ inside, e.2.text = '<' :: inside ++ ['>'] ∧
      ∀ c ∈ inside, c ≠ '<' ∧ c ≠ '>'
  spans_eq : ∀ s ∈ spans text, spans s = [s]
  terms_eq : ∀ s ∈ spans text, ∀ (stopWords : StopWords) (stem : List Char → List Char),
    ¬stopWords.contains s →
    ∀ p ∈ [Preprocessor.english stopWords stem, Preprocessor.czech stopWords stem],
      p.terms s = [p.term s] ∧ p.term s ∈ p.terms text

theorem keepsWords (text : String) : KeepsWords text := by
  have hl := leftmost_located 0 text.toList
  have hsnd := map_snd_located 0 text.toList
  have hf : ∀ e ∈ places text, first? (text.toList.drop e.1) = some e.2 :=
    fun e he => (hl.first?_eq e he).2
  constructor
  case map_snd_places => exact hsnd
  case match?_eq =>
    intro e he
    rw [match?_expression, Span.preferred?_eq, hf e he, Option.map_some]
  case preferred?_eq => exact fun e he => (Span.preferred?_eq _).trans (hf e he)
  case match?_eq_none =>
    intro i hi hn
    have hgap := hl.gap i hi fun e he => by rw [Nat.zero_add]; exact hn e he
    rw [match?_expression, Span.preferred?_eq, hgap, Option.map_none]
  case prefix_drop => exact fun e he => isPrefix_of_first? (hf e he)
  case ne_nil => exact fun e he => first?_ne_nil (hf e he)
  case ordered => exact hl.ordered
  case existsUnique_covers =>
    intro i c hi hc
    obtain ⟨e, he, hcov⟩ := hl.exists_covers hi hc
    rw [Nat.zero_add] at hcov
    exact ⟨e, ⟨he, hcov⟩, fun e' he' => hl.eq_of_covers he'.1 he he'.2 hcov⟩
  case span_or_tag =>
    intro e he
    by_cases hk : e.2.kind = .tag
    · have ht : tag? (text.toList.drop e.1) = some e.2.text := by
        have hm := match?_of_first? (hf e he)
        rwa [hk, match?_tag] at hm
      obtain ⟨behind, -, -, -, ht⟩ := tag?_eq_some_iff.1 ht
      refine .inr ⟨hk, _, ht, fun c hc => ?_⟩
      simpa using List.mem_takeWhile_imp hc
    · exact .inl ⟨hk, mem_spans_iff.2 ⟨e.2, hsnd ▸ List.mem_map_of_mem he, hk, rfl⟩⟩
  case spans_eq => exact fun s hs => spans_self hs
  case terms_eq =>
    intro s hs stopWords stem hn p hp
    rw [List.mem_cons, List.mem_singleton] at hp
    rcases hp with rfl | rfl
    · exact terms_ofSpans_self (Preprocessor.englishTerm stem) hs hn
    · exact terms_ofSpans_self (Preprocessor.czechTerm stem) hs hn

end Retrieval.Terms
