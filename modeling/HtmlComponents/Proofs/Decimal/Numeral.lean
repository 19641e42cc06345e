import HtmlComponents.Decimal.Numeral
import HtmlComponents.Proofs.Text.Blank
import HtmlComponents.Proofs.Decimal.Range

/-!
# The grammar of numerals

What the reader of numerals accepts, said as a grammar: `ofChars?_eq_some_iff`. An attribute writes a number if
it is a numeral with blank space around it that is not too large for the format (`parse?_eq_some_iff`).
-/

namespace HtmlComponents.Decimal

namespace Numeral

open Text (takeWhile_append_stop exists_stop head?_cons_stop)

/-- Decimal digits, perhaps none. -/
def Digits (text : List Char) : Prop := ∀ c ∈ text, c.isDigit = true

/-- A sign, and whether it is a minus. -/
inductive Sign : List Char → Bool → Prop
  | absent : Sign [] false
  | plus : Sign ['+'] false
  | minus : Sign ['-'] true

/-- A point with the digits behind it. -/
inductive Fraction : List Char → List Char → Prop
  | absent : Fraction [] []
  | point {digits : List Char} (h : Digits digits) : Fraction ('.' :: digits) digits

/-- An exponent with its value. Behind the mark there is at least one digit. -/
inductive Exponent : List Char → Int → Prop
  | absent : Exponent [] 0
  | present {mark : Char} {sign digits : List Char} {negative : Bool} (hmark : mark = 'e' ∨ mark = 'E')
      (hsign : Sign sign negative) (hdigits : Digits digits) (hne : digits ≠ []) :
      Exponent (mark :: (sign ++ digits)) (if negative then -(natOfDigits digits : Int) else natOfDigits digits)

/-- A text and the numeral that it spells. There is a digit before the point or behind it. -/
inductive Spells : List Char → Numeral → Prop
  | intro {sign whole fraction decimals exponent : List Char} {negative : Bool} {e : Int}
      (hsign : Sign sign negative) (hwhole : Digits whole) (hfraction : Fraction fraction decimals)
      (hne : whole ++ decimals ≠ []) (hexponent : Exponent exponent e) :
      Spells (sign ++ (whole ++ (fraction ++ exponent)))
        ⟨negative, natOfDigits (whole ++ decimals), e - decimals.length⟩

variable {text sign whole fraction decimals rest : List Char} {negative : Bool} {e : Int} {numeral : Numeral}

theorem Digits.of_all (h : text.all Char.isDigit = true) : Digits text := List.all_eq_true.mp h

theorem exists_sign (text : List Char) :
    ∃ sign, Sign sign (takeSign text).1 ∧ text = sign ++ (takeSign text).2 := by
  fun_cases takeSign text with
  | case1 rest => exact ⟨_, .minus, rfl⟩
  | case2 rest => exact ⟨_, .plus, rfl⟩
  | case3 => exact ⟨_, .absent, rfl⟩

theorem takeSign_append (hsign : Sign sign negative) (hrest : ∀ c ∈ rest.head?, c ≠ '-' ∧ c ≠ '+') :
    takeSign (sign ++ rest) = (negative, rest) := by
  cases hsign with
  | plus => rfl
  | minus => rfl
  | absent =>
    rw [List.nil_append]
    unfold takeSign
    split
    · exact absurd rfl (hrest _ rfl).1
    · exact absurd rfl (hrest _ rfl).2
    · rfl

theorem ne_sign_of_isDigit {c : Char} (h : c.isDigit = true) : c ≠ '-' ∧ c ≠ '+' := by
  constructor <;>
    · rintro rfl
      exact absurd h (by decide)

theorem exponent?_eq_some_iff : exponent? text = some e ↔ Exponent text e := by
  constructor
  · intro h
    unfold exponent? at h
    split at h
    · cases h
      exact .absent
    · rename_i mark rest
      split at h
      · rename_i hmark
        obtain ⟨sign, hsign, hrest⟩ := exists_sign rest
        simp only at h
        split at h
        · cases h
        · rename_i hdigits
          rw [Bool.or_eq_true, not_or, List.isEmpty_iff, Bool.not_eq_true', Bool.not_eq_false] at hdigits
          rw [hrest, ← Option.some.inj h]
          exact .present hmark hsign (.of_all hdigits.2) hdigits.1
      · cases h
  · intro h
    cases h with
    | absent => rfl
    | @present mark sign digits negative hmark hsign hdigits hne =>
      have hrest : takeSign (sign ++ digits) = (negative, digits) := by
        refine takeSign_append hsign fun c hc => ?_
        exact ne_sign_of_isDigit (hdigits c (List.mem_of_mem_head? hc))
      have hread : (digits.isEmpty || !digits.all Char.isDigit) = false := by
        rw [Bool.or_eq_false_iff, Bool.not_eq_false', List.isEmpty_eq_false_iff]
        exact ⟨hne, List.all_eq_true.mpr hdigits⟩
      rw [exponent?, if_pos hmark, hrest]
      simp only [hread, Bool.false_eq_true, if_false]

/-- What is read of a text that is cut behind its sign, its digits and its point with digits. -/
theorem ofChars?_of_takeSign (hsign : takeSign text = (negative, whole ++ (fraction ++ rest)))
    (hwhole : Digits whole) (hfraction : Fraction fraction decimals) (hrest : ∀ c ∈ rest.head?, c.isDigit = false)
    (hpoint : fraction = [] → ∀ c ∈ rest.head?, c ≠ '.') :
    ofChars? text =
      if whole ++ decimals = [] then none
      else (exponent? rest).map fun e => ⟨negative, natOfDigits (whole ++ decimals), e - decimals.length⟩ := by
  have hstop : ∀ c ∈ (fraction ++ rest).head?, c.isDigit = false := by
    cases hfraction with
    | absent => exact hrest
    | point => exact head?_cons_stop (by decide) _
  have htake : (whole ++ (fraction ++ rest)).takeWhile Char.isDigit = whole := takeWhile_append_stop hwhole hstop
  have hempty : (whole.isEmpty && decimals.isEmpty) = true ↔ whole ++ decimals = [] := by simp
  unfold ofChars?
  rw [hsign]
  simp only [htake, List.drop_left]
  cases hfraction with
  | absent =>
    cases rest with
    | nil => simp
    | cons c rest =>
      have hc : c ≠ '.' := hpoint rfl c rfl
      simp [hc]
  | point hdecimals =>
    have hdecimals : (decimals ++ rest).takeWhile Char.isDigit = decimals := takeWhile_append_stop hdecimals hrest
    simp only [List.cons_append, hdecimals, List.drop_left, hempty]

theorem exists_fraction (htext : ∀ c ∈ text.head?, c.isDigit = false) :
    ∃ fraction decimals rest, text = fraction ++ rest ∧ Fraction fraction decimals ∧
      (∀ c ∈ rest.head?, c.isDigit = false) ∧ (fraction = [] → ∀ c ∈ rest.head?, c ≠ '.') := by
  cases text with
  | nil => exact ⟨[], [], [], rfl, .absent, htext, fun _ _ hc => nomatch hc⟩
  | cons c tail =>
    by_cases hc : c = '.'
    · obtain ⟨decimals, rest, rfl, hdecimals, hrest⟩ := exists_stop Char.isDigit tail
      subst hc
      exact ⟨'.' :: decimals, decimals, rest, rfl, .point hdecimals, hrest,
        fun h => absurd h (List.cons_ne_nil _ _)⟩
    · refine ⟨[], [], c :: tail, rfl, .absent, htext, fun _ d hd => ?_⟩
      cases hd
      exact hc

theorem Exponent.stops (h : Exponent text e) : ∀ c ∈ text.head?, c.isDigit = false ∧ c ≠ '.' := by
  cases h with
  | absent => exact fun _ hc => nomatch hc
  | present hmark =>
    intro c hc
    cases hc
    rcases hmark with rfl | rfl <;> decide

/-- The numerals that are read are those of the grammar. -/
theorem ofChars?_eq_some_iff : ofChars? text = some numeral ↔ Spells text numeral := by
  constructor
  · intro h
    obtain ⟨sign, hsign, htext⟩ := exists_sign text
    rcases hcut : takeSign text with ⟨negative, unsigned⟩
    rw [hcut] at hsign htext
    obtain ⟨whole, tail, rfl, hwhole, htail⟩ := exists_stop Char.isDigit unsigned
    obtain ⟨fraction, decimals, rest, rfl, hfraction, hrest, hpoint⟩ := exists_fraction htail
    rw [ofChars?_of_takeSign hcut hwhole hfraction hrest hpoint] at h
    split at h
    · cases h
    · rename_i hne
      obtain ⟨e, hexponent, rfl⟩ := Option.map_eq_some_iff.mp h
      rw [htext]
      exact .intro hsign hwhole hfraction hne (exponent?_eq_some_iff.mp hexponent)
  · rintro ⟨hsign, hwhole, hfraction, hne, hexponent⟩
    rename_i sign whole fraction decimals exponent negative e
    -- behind the sign there is a digit or a point, so no sign is left to be read
    have hunsigned : ∀ c ∈ (whole ++ (fraction ++ exponent)).head?, c ≠ '-' ∧ c ≠ '+' := by
      intro c hc
      cases whole with
      | cons d whole =>
        cases hc
        exact ne_sign_of_isDigit (hwhole _ List.mem_cons_self)
      | nil =>
        cases hfraction with
        | absent => exact absurd rfl hne
        | point =>
          cases hc
          decide
    rw [ofChars?_of_takeSign (takeSign_append hsign hunsigned) hwhole hfraction
      (fun c hc => (hexponent.stops c hc).1) fun _ c hc => (hexponent.stops c hc).2, if_neg hne,
      exponent?_eq_some_iff.mpr hexponent]
    rfl

example : Spells "-1.50e3".toList ⟨true, 150, 1⟩ := ofChars?_eq_some_iff.mp (by decide)

/-! ### Numerals between blank space -/

theorem Sign.not_blank (h : Sign sign negative) : ∀ c ∈ sign, Text.isBlank c = false := by
  cases h with
  | absent => exact fun _ hc => nomatch hc
  | plus => exact List.forall_mem_singleton.mpr rfl
  | minus => exact List.forall_mem_singleton.mpr rfl

theorem Spells.not_blank (h : Spells text numeral) : ∀ c ∈ text, Text.isBlank c = false := by
  obtain ⟨hsign, hwhole, hfraction, -, hexponent⟩ := h
  have hpoint : Text.isBlank '.' = false := rfl
  have hdigits {digits : List Char} (h : Digits digits) : ∀ c ∈ digits, Text.isBlank c = false :=
    fun c hc => Text.isBlank_of_isAlphanum (Text.isAlphanum_of_isDigit (h c hc))
  refine List.forall_mem_append.mpr ⟨hsign.not_blank, List.forall_mem_append.mpr ⟨hdigits hwhole, ?_⟩⟩
  refine List.forall_mem_append.mpr ⟨?_, ?_⟩
  · cases hfraction with
    | absent => exact fun _ hc => nomatch hc
    | point hdecimals => exact List.forall_mem_cons.mpr ⟨hpoint, hdigits hdecimals⟩
  · cases hexponent with
    | absent => exact fun _ hc => nomatch hc
    | present hmark hsign hexponent =>
      refine List.forall_mem_cons.mpr ⟨?_, List.forall_mem_append.mpr ⟨hsign.not_blank, hdigits hexponent⟩⟩
      rcases hmark with rfl | rfl <;> rfl

end Numeral

theorem Numeral.isFinite_toFloat_iff (numeral : Numeral) :
    numeral.toFloat.isFinite = true ↔ (numeral.digits : ℚ) * 10 ^ numeral.scale < 2 ^ 1024 - 2 ^ 970 := by
  rw [← isFinite_ofScientific_iff_lt, Numeral.toFloat]
  split
  · rw [isFinite_neg]
  · rfl

/-- A text that writes a number: a numeral with blank space around it, not so large that rounding leaves the
finite numbers. The number is the nearest one, with the sign of the numeral. -/
def Writes (text : List Char) (x : Float) : Prop :=
  ∃ front body back numeral, text = front ++ body ++ back ∧ (∀ c ∈ front, Text.isBlank c = true) ∧
    (∀ c ∈ back, Text.isBlank c = true) ∧ Numeral.Spells body numeral ∧
      (numeral.digits : ℚ) * 10 ^ numeral.scale < 2 ^ 1024 - 2 ^ 970 ∧
        x = if numeral.negative then -Float.ofScientific numeral.digits (numeral.scale < 0) numeral.scale.natAbs
          else Float.ofScientific numeral.digits (numeral.scale < 0) numeral.scale.natAbs

theorem parse?_eq_some_iff {text : String} {x : Float} : parse? text = some x ↔ Writes text.toList x := by
  unfold parse?
  rw [Option.bind_eq_some_iff]
  constructor
  · rintro ⟨numeral, hnumeral, h⟩
    obtain ⟨hfinite, hx⟩ := Option.ite_none_right_eq_some.mp h
    obtain ⟨front, back, htext, hfront, hback⟩ := Text.exists_trimChars text.toList
    exact ⟨front, _, back, numeral, htext, hfront, hback, Numeral.ofChars?_eq_some_iff.mp hnumeral,
      numeral.isFinite_toFloat_iff.mp hfinite, (Option.some.inj hx).symm⟩
  · rintro ⟨front, body, back, numeral, htext, hfront, hback, hbody, hsize, hx⟩
    have htrim : Text.trimChars text.toList = body := by
      rw [htext]
      exact Text.trimChars_append hfront hback (fun c hc => hbody.not_blank c (List.mem_of_mem_head? hc))
        fun c hc => hbody.not_blank c (List.mem_of_getLast? hc)
    refine ⟨numeral, htrim ▸ Numeral.ofChars?_eq_some_iff.mpr hbody, ?_⟩
    rw [if_pos (numeral.isFinite_toFloat_iff.mpr hsize), hx]
    rfl

end HtmlComponents.Decimal
