import Mathlib.Data.List.TakeWhile

/-!
# Runs of characters

A text falls into a part of characters of one kind and a rest that does not begin with such a character
(`exists_stop`), in one way only (`run_unique`).
-/

namespace HtmlComponents.Text

variable {p : Char → Bool} {a b x y : List Char}

theorem takeWhile_append_stop (ha : ∀ c ∈ a, p c = true) (hb : ∀ c ∈ b.head?, p c = false) :
    (a ++ b).takeWhile p = a := by
  rw [List.takeWhile_append_of_pos ha]
  cases b with
  | nil => simp
  | cons c rest => rw [List.takeWhile_cons_of_neg (by simp [hb c rfl]), List.append_nil]

theorem dropWhile_append_stop (ha : ∀ c ∈ a, p c = true) (hb : ∀ c ∈ b.head?, p c = false) :
    (a ++ b).dropWhile p = b := by
  rw [List.dropWhile_append_of_pos ha]
  cases b with
  | nil => rfl
  | cons c rest => rw [List.dropWhile_cons_of_neg (by simp [hb c rfl])]

theorem stop_dropWhile (p : Char → Bool) (text : List Char) :
    ∀ c ∈ (text.dropWhile p).head?, p c = false := by
  intro c hc
  have hstop := List.head?_dropWhile_not p text
  rw [Option.mem_def.mp hc] at hstop
  exact hstop

/-- A text falls into a part that `p` takes and a rest that does not begin with such a character. -/
theorem exists_stop (p : Char → Bool) (text : List Char) :
    ∃ front rest, text = front ++ rest ∧ (∀ c ∈ front, p c = true) ∧ ∀ c ∈ rest.head?, p c = false :=
  ⟨text.takeWhile p, text.dropWhile p, List.takeWhile_append_dropWhile.symm,
    fun _ hc => List.mem_takeWhile_imp hc, stop_dropWhile p text⟩

theorem head?_cons_stop {c : Char} (h : p c = false) (rest : List Char) :
    ∀ d ∈ (c :: rest).head?, p d = false := by
  intro d hd
  cases hd
  exact h

/-- A text falls into a part of such characters and a rest in one way only. -/
theorem run_unique (ha : ∀ c ∈ a, p c = true) (hb : ∀ c ∈ b, p c = true) (hx : ∀ c ∈ x.head?, p c = false)
    (hy : ∀ c ∈ y.head?, p c = false) (h : a ++ x = b ++ y) : a = b ∧ x = y := by
  have htake := congrArg (List.takeWhile p) h
  have hdrop := congrArg (List.dropWhile p) h
  rw [takeWhile_append_stop ha hx, takeWhile_append_stop hb hy] at htake
  rw [dropWhile_append_stop ha hx, dropWhile_append_stop hb hy] at hdrop
  exact ⟨htake, hdrop⟩

end HtmlComponents.Text
