/-!
# Offsets in bytes

Places in a text are counted in the bytes of its UTF-8 form.
-/

namespace HtmlComponents.Text

/-- The number of bytes of a text in UTF-8. -/
def byteLength : List Char → Nat
  | [] => 0
  | c :: rest => c.utf8Size + byteLength rest

/-- The text from a byte offset on. An offset inside a character counts as its end. -/
def dropBytes : Nat → List Char → List Char
  | _, [] => []
  | 0, text => text
  | n, c :: rest => dropBytes (n - c.utf8Size) rest

/-- The text before a byte offset. An offset inside a character counts as its end. -/
def takeBytes : Nat → List Char → List Char
  | _, [] => []
  | 0, _ => []
  | n, c :: rest => c :: takeBytes (n - c.utf8Size) rest

@[simp] theorem byteLength_nil : byteLength [] = 0 := rfl

theorem byteLength_append (a b : List Char) :
    byteLength (a ++ b) = byteLength a + byteLength b := by
  induction a with
  | nil => simp
  | cons c rest ih => simp [byteLength, ih, Nat.add_assoc]

theorem byteLength_pos {text : List Char} (h : text ≠ []) : 0 < byteLength text := by
  cases text with
  | nil => exact absurd rfl h
  | cons c rest => have := c.utf8Size_pos; simp only [byteLength]; omega

@[simp] theorem dropBytes_zero (text : List Char) : dropBytes 0 text = text := by
  cases text <;> rfl

@[simp] theorem takeBytes_zero (text : List Char) : takeBytes 0 text = [] := by
  cases text <;> rfl

theorem dropBytes_byteLength_append (a b : List Char) :
    dropBytes (byteLength a) (a ++ b) = b := by
  induction a with
  | nil => simp
  | cons c rest ih =>
    have hc := c.utf8Size_pos
    have hne : byteLength (c :: rest) ≠ 0 := by simp only [byteLength]; omega
    obtain ⟨n, hn⟩ := Nat.exists_eq_succ_of_ne_zero hne
    rw [hn, List.cons_append, dropBytes, ← hn]
    · simpa [byteLength] using ih
    · simp

theorem takeBytes_byteLength_append (a b : List Char) :
    takeBytes (byteLength a) (a ++ b) = a := by
  induction a with
  | nil => simp
  | cons c rest ih =>
    have hc := c.utf8Size_pos
    have hne : byteLength (c :: rest) ≠ 0 := by simp only [byteLength]; omega
    obtain ⟨n, hn⟩ := Nat.exists_eq_succ_of_ne_zero hne
    rw [hn, List.cons_append, takeBytes, ← hn]
    · simpa [byteLength] using ih
    · simp

end HtmlComponents.Text
