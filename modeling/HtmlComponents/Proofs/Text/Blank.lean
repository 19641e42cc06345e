import HtmlComponents.Proofs.Text.Letters
import HtmlComponents.Proofs.Text.Run
import HtmlComponents.Text.Blank
import Mathlib.Data.List.DropRight

/-!
# Trimmed texts

Trimming takes away blank space at the two ends (`exists_trimChars`) and nothing else (`trimChars_append`).
-/

namespace HtmlComponents.Text

variable {front core back : List Char}

theorem exists_trimChars (text : List Char) : ∃ front back,
    text = front ++ trimChars text ++ back ∧ (∀ c ∈ front, isBlank c = true) ∧
      ∀ c ∈ back, isBlank c = true := by
  have hfront := List.takeWhile_append_dropWhile (p := isBlank) (l := text)
  have hback := List.takeWhile_append_dropWhile (p := isBlank)
    (l := (text.dropWhile isBlank).reverse)
  refine ⟨text.takeWhile isBlank,
    ((text.dropWhile isBlank).reverse.takeWhile isBlank).reverse, ?_, ?_, ?_⟩
  · rw [trimChars, List.append_assoc, ← List.reverse_append, hback, List.reverse_reverse, hfront]
  · exact fun c hc => List.mem_takeWhile_imp hc
  · exact fun c hc => List.mem_takeWhile_imp (List.mem_reverse.mp hc)

theorem dropWhile_trimChars (text : List Char) : (trimChars text).dropWhile isBlank = trimChars text := by
  have hprefix : trimChars text <+: text.dropWhile isBlank := List.rdropWhile_prefix isBlank _
  cases hchars : trimChars text with
  | nil => rfl
  | cons c rest =>
    obtain ⟨back, hback⟩ := hchars ▸ hprefix
    have hhead := List.head?_dropWhile_not isBlank text
    rw [← hback] at hhead
    exact List.dropWhile_cons_of_neg (by simpa using hhead)

theorem trimChars_append (hfront : ∀ c ∈ front, isBlank c = true) (hback : ∀ c ∈ back, isBlank c = true)
    (hfirst : ∀ c ∈ core.head?, isBlank c = false) (hlast : ∀ c ∈ core.getLast?, isBlank c = false) :
    trimChars (front ++ core ++ back) = core := by
  have hreverse : ∀ c ∈ back.reverse, isBlank c = true := fun c hc => hback c (List.mem_reverse.mp hc)
  cases core with
  | nil =>
    have hall : ∀ c ∈ front ++ [] ++ back, isBlank c = true := by
      simp only [List.append_nil]
      exact fun c hc => (List.mem_append.mp hc).elim (hfront c) (hback c)
    rw [trimChars, List.dropWhile_eq_nil_iff.mpr hall]
    rfl
  | cons c rest =>
    have hends : ((c :: rest) ++ back).dropWhile isBlank = (c :: rest) ++ back :=
      List.dropWhile_cons_of_neg (by simp [hfirst c rfl])
    rw [trimChars, List.append_assoc, List.dropWhile_append_of_pos hfront, hends, List.reverse_append,
      dropWhile_append_stop hreverse (fun d hd => hlast d (by rwa [List.head?_reverse] at hd)), List.reverse_reverse]

/-- A text without the blank space at its two ends. -/
structure IsTrimmed (text core : List Char) : Prop where
  around : ∃ front back, text = front ++ core ++ back ∧ (∀ c ∈ front, isBlank c = true) ∧
    ∀ c ∈ back, isBlank c = true
  first : ∀ c ∈ core.head?, isBlank c = false
  last : ∀ c ∈ core.getLast?, isBlank c = false

theorem isTrimmed_trimChars (text : List Char) : IsTrimmed text (trimChars text) where
  around := exists_trimChars text
  first c hc := by
    have h := List.head?_dropWhile_not isBlank (trimChars text)
    rw [dropWhile_trimChars, hc] at h
    simpa using h
  last c hc := by
    have h := List.head?_dropWhile_not isBlank (text.dropWhile isBlank).reverse
    rw [← List.getLast?_reverse, ← trimChars, hc] at h
    simpa using h

theorem trimChars_append_left {front text : List Char} (h : ∀ c ∈ front, isBlank c = true) :
    trimChars (front ++ text) = trimChars text := by
  rw [trimChars, List.dropWhile_append_of_pos h, trimChars]

theorem trimChars_dropWhile_isGap (text : List Char) : trimChars (text.dropWhile isGap) = trimChars text := by
  have hblank : ∀ c ∈ text.takeWhile isGap, isBlank c = true := fun c hc =>
    isBlank_of_isGap (List.mem_takeWhile_imp hc)
  rw [← trimChars_append_left hblank, List.takeWhile_append_dropWhile]

theorem isBlank_of_isAlphanum {c : Char} (h : c.isAlphanum = true) : isBlank c = false :=
  of_ascii (p := fun c => c.isAlphanum = true → isBlank c = false) (by decide +kernel) (toNat_lt_of_isAlphanum h) h

theorem isBlank_of_isAlpha {c : Char} (h : c.isAlpha = true) : isBlank c = false :=
  isBlank_of_isAlphanum (isAlphanum_of_isAlpha h)

theorem isAlpha_of_isGap {c : Char} (h : isGap c = true) : c.isAlpha = false := by
  rw [← Bool.not_eq_true]
  exact fun hc => Bool.false_ne_true ((isBlank_of_isAlpha hc).symm.trans (isBlank_of_isGap h))

end HtmlComponents.Text
