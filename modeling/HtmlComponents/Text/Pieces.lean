/-!
# Pieces between separators

Splitting at every occurrence of a character, splitting at the first one, and joining again.
-/

namespace HtmlComponents.Text

/-- The pieces of a text between the occurrences of a separator; there is always at least one. -/
def pieces (separator : Char) : List Char → List (List Char)
  | [] => [[]]
  | c :: rest =>
    if c = separator then [] :: pieces separator rest
    else
      match pieces separator rest with
      | piece :: others => (c :: piece) :: others
      | [] => [[c]]

/-- The text before the first occurrence of a separator; the whole text if there is none. -/
def before (separator : Char) (text : List Char) : List Char :=
  text.takeWhile fun c => c != separator

/-- The text after the first occurrence of a separator; empty if there is none. -/
def after (separator : Char) (text : List Char) : List Char :=
  (text.dropWhile fun c => c != separator).drop 1

theorem pieces_ne_nil (separator : Char) (text : List Char) : pieces separator text ≠ [] := by
  cases text with
  | nil => simp [pieces]
  | cons c rest =>
    simp only [pieces]
    split
    · simp
    · split <;> simp

theorem pieces_of_notMem {separator : Char} {text : List Char} (h : separator ∉ text) :
    pieces separator text = [text] := by
  induction text with
  | nil => rfl
  | cons c rest ih =>
    rw [List.mem_cons, not_or] at h
    rw [pieces, if_neg (Ne.symm h.1), ih h.2]

theorem pieces_append_cons {separator : Char} {text : List Char} (h : separator ∉ text)
    (rest : List Char) :
    pieces separator (text ++ separator :: rest) = text :: pieces separator rest := by
  induction text with
  | nil => rw [List.nil_append, pieces, if_pos rfl]
  | cons c more ih =>
    rw [List.mem_cons, not_or] at h
    rw [List.cons_append, pieces, if_neg (Ne.symm h.1), ih h.2]

theorem bne_of_mem {separator c : Char} {text : List Char} (h : separator ∉ text) (hc : c ∈ text) :
    (c != separator) = true := by
  rw [bne_iff_ne]
  rintro rfl
  exact h hc

theorem before_of_notMem {separator : Char} {text : List Char} (h : separator ∉ text) :
    before separator text = text := by
  have htake : (text ++ []).takeWhile (fun c => c != separator) = text ++ [] :=
    List.takeWhile_append_of_pos fun _ hc => bne_of_mem h hc
  rwa [List.append_nil] at htake

theorem after_of_notMem {separator : Char} {text : List Char} (h : separator ∉ text) :
    after separator text = [] := by
  have hdrop : (text ++ []).dropWhile (fun c => c != separator) = [] :=
    List.dropWhile_append_of_pos fun _ hc => bne_of_mem h hc
  rw [List.append_nil] at hdrop
  rw [after, hdrop, List.drop_nil]

/-- The pieces with the separator between them are the text. -/
theorem intercalate_pieces (separator : Char) (text : List Char) :
    [separator].intercalate (pieces separator text) = text := by
  induction text with
  | nil => rfl
  | cons c rest ih =>
    simp only [pieces]
    split
    · rename_i h
      subst h
      match hp : pieces c rest with
      | [] => exact absurd hp (pieces_ne_nil c rest)
      | piece :: others => rw [hp] at ih; simp [List.intercalate, List.intersperse] at ih ⊢; exact ih
    · match hp : pieces separator rest with
      | [] => exact absurd hp (pieces_ne_nil separator rest)
      | piece :: others =>
        rw [hp] at ih
        cases others with
        | nil => simpa [List.intercalate] using ih
        | cons next more => simpa [List.intercalate, List.intersperse] using ih

theorem not_mem_of_mem_pieces {separator : Char} {text piece : List Char}
    (h : piece ∈ pieces separator text) : separator ∉ piece := by
  induction text generalizing piece with
  | nil => simp only [pieces, List.mem_singleton] at h; simp [h]
  | cons c rest ih =>
    simp only [pieces] at h
    split at h
    · rcases List.mem_cons.mp h with rfl | h
      · simp
      · exact ih h
    · rename_i hc
      match hp : pieces separator rest with
      | [] => exact absurd hp (pieces_ne_nil separator rest)
      | first :: others =>
        rw [hp] at h ih
        rcases List.mem_cons.mp h with rfl | h
        · simp only [List.mem_cons, not_or]
          exact ⟨fun e => hc e.symm, ih (List.mem_cons_self ..)⟩
        · exact ih (List.mem_cons_of_mem _ h)

end HtmlComponents.Text
