import HtmlComponents.Text.Pieces
import Mathlib.Data.List.Basic

/-!
# Texts cut at separators

What is before and after the first separator of a text that is put together of two (`before_append_of_notMem`,
`after_append_of_notMem`), and the pieces of a text that is put together of several (`pieces_flatMap`,
`pieces_append_separator`).
-/

namespace HtmlComponents.Text

variable {separator c : Char} {a : List Char}

theorem before_append_of_mem (h : separator ∈ a) (b : List Char) :
    before separator (a ++ b) = before separator a := by
  induction a with
  | nil => cases h
  | cons c a ih =>
    unfold before at ih ⊢
    by_cases hc : c = separator
    · simp [hc]
    · have hmem := (List.mem_cons.mp h).resolve_left (Ne.symm hc)
      simp [hc, ih hmem]

theorem before_append_of_notMem (h : separator ∉ a) (b : List Char) :
    before separator (a ++ b) = a ++ before separator b :=
  List.takeWhile_append_of_pos fun _ hc => bne_of_mem h hc

theorem before_append_cons (h : separator ∉ a) (b : List Char) : before separator (a ++ separator :: b) = a := by
  have hnone : before separator (separator :: b) = [] := List.takeWhile_cons_of_neg (by simp)
  rw [before_append_of_notMem h, hnone, List.append_nil]

theorem after_append_of_mem (h : separator ∈ a) (b : List Char) :
    after separator (a ++ b) = after separator a ++ b := by
  induction a with
  | nil => cases h
  | cons c a ih =>
    unfold after at ih ⊢
    by_cases hc : c = separator
    · simp [hc]
    · have hmem := (List.mem_cons.mp h).resolve_left (Ne.symm hc)
      simp [hc, ih hmem]

theorem after_append_of_notMem (h : separator ∉ a) (b : List Char) :
    after separator (a ++ b) = after separator b := by
  rw [after, after, List.dropWhile_append_of_pos fun _ hc => bne_of_mem h hc]

theorem after_append_cons (h : separator ∉ a) (b : List Char) : after separator (a ++ separator :: b) = b := by
  rw [after_append_of_notMem h, after, List.dropWhile_cons_of_neg (by simp), List.drop_one, List.tail_cons]

theorem notMem_after (h : c ∉ a) : c ∉ after separator a :=
  fun hc => h ((List.dropWhile_suffix _).mem (List.mem_of_mem_drop hc))

theorem pieces_empty_iff (separator : Char) (text : List Char) :
    (∀ piece ∈ pieces separator text, piece = []) ↔ ∀ c ∈ text, c = separator := by
  induction text with
  | nil => simp [pieces]
  | cons c rest ih =>
    rw [pieces, List.forall_mem_cons]
    by_cases hc : c = separator
    · simp [hc, ih]
    · rw [if_neg hc]
      cases hpieces : pieces separator rest with
      | nil => exact absurd hpieces (pieces_ne_nil separator rest)
      | cons piece others => simp [hc]

theorem mem_piece_of_mem {text : List Char} (h : c ∈ text) (hne : c ≠ separator) :
    ∃ piece ∈ pieces separator text, c ∈ piece := by
  induction text with
  | nil => cases h
  | cons d rest ih =>
    rw [pieces]
    split
    · rename_i hd
      subst hd
      obtain ⟨piece, hpiece, hc⟩ := ih ((List.mem_cons.mp h).resolve_left hne)
      exact ⟨piece, List.mem_cons_of_mem _ hpiece, hc⟩
    · cases hpieces : pieces separator rest with
      | nil => exact absurd hpieces (pieces_ne_nil separator rest)
      | cons first others =>
        rcases List.mem_cons.mp h with rfl | h
        · exact ⟨_, List.mem_cons_self, List.mem_cons_self⟩
        · obtain ⟨piece, hpiece, hc⟩ := ih h
          rw [hpieces] at hpiece
          rcases List.mem_cons.mp hpiece with rfl | hpiece
          · exact ⟨_, List.mem_cons_self, List.mem_cons_of_mem _ hc⟩
          · exact ⟨piece, List.mem_cons_of_mem _ hpiece, hc⟩

theorem before_before (c d : Char) (text : List Char) :
    before d (before c text) = text.takeWhile fun e => e != c && e != d := by
  induction text with
  | nil => rfl
  | cons e rest ih =>
    unfold before at ih ⊢
    by_cases hc : (e != c) = true
    · by_cases hd : (e != d) = true
      · simp only [List.takeWhile_cons, hc, hd, Bool.and_self, if_true, ih]
      · simp [hc, hd]
    · simp [hc]

theorem pieces_flatMap {part : List Char} {rest : List (List Char)}
    (h : ∀ p ∈ part :: rest, separator ∉ p) :
    pieces separator (part ++ rest.flatMap (separator :: ·)) = part :: rest := by
  induction rest generalizing part with
  | nil => rw [List.flatMap_nil, List.append_nil, pieces_of_notMem (h part List.mem_cons_self)]
  | cons next rest ih =>
    obtain ⟨hpart, hrest⟩ := List.forall_mem_cons.mp h
    rw [List.flatMap_cons, List.cons_append, pieces_append_cons hpart, ih hrest]

/-- Texts joined by a separator fall apart into the texts again. -/
theorem pieces_intercalate {part : List Char} {rest : List (List Char)} (h : ∀ p ∈ part :: rest, separator ∉ p) :
    pieces separator ([separator].intercalate (part :: rest)) = part :: rest := by
  induction rest generalizing part with
  | nil => rw [List.intercalate_singleton, pieces_of_notMem (h part List.mem_cons_self)]
  | cons next rest ih =>
    obtain ⟨hpart, hrest⟩ := List.forall_mem_cons.mp h
    rw [List.intercalate_cons_cons, List.append_assoc, List.singleton_append, pieces_append_cons hpart, ih hrest]

theorem pieces_append_separator (separator : Char) (a b : List Char) :
    pieces separator (a ++ separator :: b) = pieces separator a ++ pieces separator b := by
  induction a with
  | nil => exact pieces_append_cons List.not_mem_nil b
  | cons c rest ih =>
    rw [List.cons_append, pieces, pieces, ih]
    by_cases hc : c = separator
    · rw [if_pos hc, if_pos hc, List.cons_append]
    · rw [if_neg hc, if_neg hc]
      cases hpieces : pieces separator rest with
      | nil => exact absurd hpieces (pieces_ne_nil separator rest)
      | cons piece others => rfl

theorem mem_intercalate {sep : List Char} {words : List (List Char)} (hc : c ∈ sep.intercalate words) :
    c ∈ sep ∨ ∃ w ∈ words, c ∈ w := by
  induction words with
  | nil => cases hc
  | cons w rest ih =>
    cases rest with
    | nil => exact .inr ⟨w, List.mem_singleton_self w, by simpa using hc⟩
    | cons next rest =>
      rw [List.intercalate_cons_cons, List.mem_append, List.mem_append] at hc
      rcases hc with (hw | hsep) | hrest
      · exact .inr ⟨w, List.mem_cons_self, hw⟩
      · exact .inl hsep
      · exact (ih hrest).imp_right fun ⟨v, hv, hmem⟩ => ⟨v, List.mem_cons_of_mem _ hv, hmem⟩

end HtmlComponents.Text
