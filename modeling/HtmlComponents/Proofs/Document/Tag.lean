import HtmlComponents.Document.Token
import Mathlib.Data.List.TakeWhile

/-!
# Written tags

What a text looks like that is read as a tag: `readStartTag?_eq` and `readEndTag?_eq`.
-/

namespace HtmlComponents.Document

/-- The source of a start tag: its name behind `<`, and `>` at the end. -/
def IsStartTag (tag : StartTag) (source : List Char) : Prop :=
  ∃ middle, source = '<' :: tag.name.toList ++ middle ++ ['>']

/-- The source of an end tag of a name: the name behind `</`, then gaps and `>`. -/
def IsEndTag (name : String) (source : List Char) : Prop :=
  ∃ gaps, (∀ c ∈ gaps, Text.isGap c = true) ∧ source = '<' :: '/' :: name.toList ++ gaps ++ ['>']

theorem IsStartTag.ne_nil {tag : StartTag} {source : List Char} (h : IsStartTag tag source) :
    source ≠ [] := by
  obtain ⟨middle, rfl⟩ := h
  simp

theorem IsEndTag.ne_nil {name : String} {source : List Char} (h : IsEndTag name source) :
    source ≠ [] := by
  obtain ⟨gaps, -, rfl⟩ := h
  simp

theorem upTo_append_left (front left : List Char) : upTo (front ++ left) left = front := by
  simp [upTo]

theorem exists_of_dropWhile_eq {p : Char → Bool} {text rest : List Char}
    (h : text.dropWhile p = rest) : ∃ front, (∀ c ∈ front, p c = true) ∧ text = front ++ rest := by
  refine ⟨text.takeWhile p, fun c hc => List.mem_takeWhile_imp hc, ?_⟩
  rw [← h, List.takeWhile_append_dropWhile]

theorem readTagName?_eq {text left : List Char} {name : String}
    (h : readTagName? text = some (name, left)) : text = name.toList ++ left := by
  unfold readTagName? at h
  split at h
  · split at h
    · simp only [Option.some.injEq, Prod.mk.injEq] at h
      obtain ⟨rfl, rfl⟩ := h
      rw [String.toList_ofList, List.takeWhile_append_dropWhile]
    · simp at h
  · simp at h

theorem readTagEnd?_eq {text left : List Char} {selfClosing : Bool}
    (h : readTagEnd? text = some (selfClosing, left)) : ∃ middle, text = middle ++ '>' :: left := by
  unfold readTagEnd? at h
  split at h
  · rename_i left' hd
    simp only [Option.some.injEq, Prod.mk.injEq] at h
    obtain ⟨-, rfl⟩ := h
    obtain ⟨gaps, -, rfl⟩ := exists_of_dropWhile_eq hd
    exact ⟨gaps ++ ['/'], by simp⟩
  · rename_i left' hd
    simp only [Option.some.injEq, Prod.mk.injEq] at h
    obtain ⟨-, rfl⟩ := h
    obtain ⟨gaps, -, rfl⟩ := exists_of_dropWhile_eq hd
    exact ⟨gaps, rfl⟩
  · simp at h

theorem readStartTag?_eq {text left : List Char} {tag : StartTag}
    (h : readStartTag? text = some (tag, left)) :
    ∃ source, text = source ++ left ∧ IsStartTag tag source := by
  unfold readStartTag? at h
  split at h
  · rename_i rest
    split at h
    · rename_i name afterName hn
      simp only [Option.map_eq_some_iff, Prod.exists, Prod.mk.injEq] at h
      obtain ⟨slash, left', he, rfl, rfl⟩ := h
      obtain ⟨front, hfront⟩ := readAttributes_suffix afterName
      obtain ⟨middle, hmiddle⟩ := readTagEnd?_eq he
      refine ⟨'<' :: name.toList ++ (front ++ middle) ++ ['>'], ?_, front ++ middle, rfl⟩
      rw [readTagName?_eq hn, ← hfront, hmiddle]
      simp
    · simp at h
  · simp at h

theorem readEndTag?_eq {text left : List Char} {name : String}
    (h : readEndTag? text = some (name, left)) :
    ∃ source, text = source ++ left ∧ IsEndTag name source := by
  unfold readEndTag? at h
  split at h
  · rename_i rest
    split at h
    · rename_i name' afterName hn
      split at h
      · rename_i left' hd
        simp only [Option.some.injEq, Prod.mk.injEq] at h
        obtain ⟨rfl, rfl⟩ := h
        obtain ⟨gaps, hgaps, rfl⟩ := exists_of_dropWhile_eq hd
        refine ⟨_, ?_, gaps, hgaps, rfl⟩
        rw [readTagName?_eq hn]
        simp
      · simp at h
    · simp at h
  · simp at h

end HtmlComponents.Document
