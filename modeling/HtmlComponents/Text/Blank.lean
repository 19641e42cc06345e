/-!
# Blank space

Three notions of blank space: the Unicode property `White_Space`, the four characters that separate
the parts of a tag, and trimming.
-/

namespace HtmlComponents.Text

/-- The Unicode property `White_Space`. -/
def isBlank (c : Char) : Bool :=
  let n := c.toNat
  (9 ≤ n && n ≤ 13) || n == 0x20 || n == 0x85 || n == 0xA0 || n == 0x1680 ||
    (0x2000 ≤ n && n ≤ 0x200A) || n == 0x2028 || n == 0x2029 || n == 0x202F || n == 0x205F ||
    n == 0x3000

/-- The characters that separate the parts of a tag or of a declaration: space, tab, line feed and
carriage return. -/
def isGap (c : Char) : Bool :=
  c == ' ' || c == '\t' || c == '\n' || c == '\r'

theorem isBlank_of_isGap {c : Char} (h : isGap c) : isBlank c := by
  simp only [isGap, Bool.or_eq_true, beq_iff_eq] at h
  rcases h with ((rfl | rfl) | rfl) | rfl <;> decide

/-- A text without the blank characters at its two ends. -/
def trimChars (text : List Char) : List Char :=
  ((text.dropWhile isBlank).reverse.dropWhile isBlank).reverse

/-- A text without the blank characters at its two ends. -/
def trim (text : String) : String := String.ofList (trimChars text.toList)

end HtmlComponents.Text
