import Mathlib.Data.List.Basic
import Mathlib.Data.String.Basic

/-!
# ASCII letters and digits

What holds of the letters and digits of ASCII, and how they go to lower case. Facts about a class of ASCII
characters are checked code point by code point (`of_ascii`).
-/

namespace HtmlComponents.Text

variable {c d : Char}

/-- What can be checked code point by code point holds of every ASCII character. -/
theorem of_ascii {p : Char → Prop} (h : ∀ n : Fin 0x80, p (Char.ofNat n)) (hc : c.toNat < 0x80) : p c := by
  simpa using h ⟨c.toNat, hc⟩

/-! ### Classes -/

theorem toNat_lt_of_isLower (h : c.isLower = true) : c.toNat < 0x80 :=
  (UInt32.le_iff_toNat_le.mp (of_decide_eq_true (Bool.and_eq_true_iff.mp h).2)).trans_lt (by decide)

theorem toNat_lt_of_isUpper (h : c.isUpper = true) : c.toNat < 0x80 :=
  (UInt32.le_iff_toNat_le.mp (of_decide_eq_true h).2).trans_lt (by decide)

theorem toNat_lt_of_isDigit (h : c.isDigit = true) : c.toNat < 0x80 :=
  (UInt32.le_iff_toNat_le.mp (of_decide_eq_true (Bool.and_eq_true_iff.mp h).2)).trans_lt (by decide)

theorem isAlpha_of_isLower (h : c.isLower = true) : c.isAlpha = true := Bool.or_eq_true_iff.mpr (.inr h)

theorem isAlpha_of_isUpper (h : c.isUpper = true) : c.isAlpha = true := Bool.or_eq_true_iff.mpr (.inl h)

theorem isAlphanum_of_isAlpha (h : c.isAlpha = true) : c.isAlphanum = true := Bool.or_eq_true_iff.mpr (.inl h)

theorem isAlphanum_of_isDigit (h : c.isDigit = true) : c.isAlphanum = true := Bool.or_eq_true_iff.mpr (.inr h)

theorem toNat_lt_of_isAlphanum (h : c.isAlphanum = true) : c.toNat < 0x80 := by
  rcases Bool.or_eq_true_iff.mp h with hletter | hdigit
  · exact (Bool.or_eq_true_iff.mp hletter).elim toNat_lt_of_isUpper toNat_lt_of_isLower
  · exact toNat_lt_of_isDigit hdigit

theorem ne_hyphen_of_isLower (h : c.isLower = true) : c ≠ '-' := by
  rintro rfl
  exact absurd h (by decide)

/-! ### Lower case -/

theorem toLower_of_isUpper_eq_false (h : c.isUpper = false) : c.toLower = c := dif_neg (of_decide_eq_false h)

theorem toLower_of_isLower (h : c.isLower = true) : c.toLower = c :=
  of_ascii (p := fun c => c.isLower = true → c.toLower = c) (by decide +kernel) (toNat_lt_of_isLower h) h

theorem toLower_of_isDigit (h : c.isDigit = true) : c.toLower = c :=
  of_ascii (p := fun c => c.isDigit = true → c.toLower = c) (by decide +kernel) (toNat_lt_of_isDigit h) h

theorem isLower_toLower (h : c.isUpper = true) : c.toLower.isLower = true :=
  of_ascii (p := fun c => c.isUpper = true → c.toLower.isLower = true) (by decide +kernel) (toNat_lt_of_isUpper h) h

theorem isAlpha_of_isLower_toLower (h : c.toLower.isLower = true) : c.isAlpha = true := by
  cases hupper : c.isUpper with
  | true => exact isAlpha_of_isUpper hupper
  | false =>
    rw [toLower_of_isUpper_eq_false hupper] at h
    exact isAlpha_of_isLower h

/-- What is no letter comes from itself alone. -/
theorem toLower_ne (hd : d.isAlpha = false) (h : c ≠ d) : c.toLower ≠ d := by
  rintro rfl
  cases hupper : c.isUpper with
  | true => exact Bool.false_ne_true (hd.symm.trans (isAlpha_of_isLower (isLower_toLower hupper)))
  | false => exact h (toLower_of_isUpper_eq_false hupper).symm

end HtmlComponents.Text
