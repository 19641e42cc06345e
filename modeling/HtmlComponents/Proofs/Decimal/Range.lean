import Mathlib.Algebra.Order.Field.Power
import Mathlib.Algebra.Order.Ring.Rat
import Mathlib.Tactic.Ring
import HtmlComponents.Proofs.Decimal.Rounding

/-!
# The range of decimals

A decimal has a finite binary number nearest to it just if it is below `2 ^ 1024 - 2 ^ 970`
(`isFinite_ofScientific_iff_lt`). Few digits with a small power of ten go another way than the others, by a
product or a quotient in the format (`isFinite_ofScientific_of_small`).
-/

namespace HtmlComponents.Decimal

open Float.Model (totalExponent Format UnpackedFloat)
open Float.Model.UnpackedFloat

/-! ### Decimals -/

theorem fits_mul_iff {s t : Sign} {m m' : Nat} {e e' : Int} {hm : 0 < m} {hm' : 0 < m'} (he : e + e' ≤ 970) :
    Fits (mul Format.binary64 (.finite s m e hm) (.finite t m' e' hm')) ↔ m * m' < ones (970 - (e + e')).toNat :=
  fits_roundWithAccuracy_iff _ _ he _

theorem fits_div_iff {s t : Sign} {m m' : Nat} {e e' : Int} {hm : 0 < m} {hm' : 0 < m'} (he : e - e' ≤ 970) :
    Fits (div Format.binary64 (.finite s m e hm) (.finite t m' e' hm')) ↔
      m < ones (970 - (e - e')).toNat * m' := by
  unfold div divCore
  dsimp only
  generalize Format.binary64.targetExponent _ = t
  have hexponent : (970 - min (e - e') t).toNat = (970 - (e - e')).toNat + (e - e' - min (e - e') t).toNat := by
    omega
  rw [fits_roundWithAccuracy_iff _ _ (by omega), Nat.div_lt_iff_lt_mul hm', Nat.shiftLeft_eq, hexponent, ones_add,
    Nat.mul_right_comm, Nat.mul_lt_mul_right (Nat.two_pow_pos _)]

theorem fits_ofScientific_iff (digits : Nat) (scale : Int) :
    Fits (ofScientific Format.binary64 digits scale) ↔
      digits * 10 ^ scale.toNat < ones 970 * 10 ^ (-scale).toNat := by
  have hten (k : Nat) : 0 < 10 ^ k := Nat.pow_pos (by decide)
  have hlimit : (2 : Int) ^ Format.binary64.exponentBits = 2048 := rfl
  have hbits : Format.binary64.mantissaBits = 53 := rfl
  rw [ofScientific, hlimit]
  by_cases hzero : digits = 0
  · rw [dif_pos hzero, hzero, Nat.zero_mul]
    exact iff_of_true trivial (Nat.mul_pos (ones_pos 970) (hten _))
  rw [dif_neg hzero]
  have hpos := Nat.pos_of_ne_zero hzero
  by_cases hlarge : scale > 2048
  · -- the power of ten is too large on its own
    rw [if_pos hlarge, show (-scale).toNat = 0 by omega, Nat.pow_zero, Nat.mul_one]
    refine iff_of_false id (Nat.not_lt.mpr ?_)
    exact (ones_le_ten_pow (by omega)).trans (Nat.le_mul_of_pos_left _ hpos)
  rw [if_neg hlarge]
  by_cases hsmall : scale < -(2048 + (digits.log2 : Int))
  · -- the power of ten makes the digits small, however many there are
    rw [if_pos hsmall, show scale.toNat = 0 by omega, Nat.pow_zero, Nat.mul_one]
    refine iff_of_true trivial ?_
    calc digits < 2 ^ (digits.log2 + 1) := Nat.lt_log2_self
      _ ≤ 2 ^ (-scale).toNat := Nat.pow_le_pow_right (by decide) (by omega)
      _ ≤ 10 ^ (-scale).toNat := Nat.pow_le_pow_left (by decide) _
      _ ≤ ones 970 * 10 ^ (-scale).toNat := Nat.le_mul_of_pos_left _ (ones_pos 970)
  rw [if_neg hsmall]
  by_cases hscale : 0 ≤ scale
  · rw [if_pos hscale, fits_mul_iff (by decide), hbits,
      show (970 - (-((53 : Nat) : Int) + 0)).toNat = 970 + 53 from rfl, ones_add, Nat.shiftLeft_eq,
      Nat.mul_right_comm, Nat.mul_lt_mul_right (Nat.two_pow_pos _), show (-scale).toNat = 0 by omega, Nat.pow_zero,
      Nat.mul_one]
  · rw [if_neg hscale, fits_div_iff (by decide), show (970 - ((0 : Int) - 0)).toNat = 970 from rfl,
      show scale.toNat = 0 by omega, Nat.pow_zero, Nat.mul_one]

/-! ### Small digits and small powers -/

/-- A number of the format that is not zero, with an exponent between bounds. -/
def within (low high : Int) : UnpackedFloat → Bool
  | .finite _ m e _ => m < 2 ^ 53 && low ≤ e && e ≤ high
  | .zero _ | .infinity _ | .notANumber => false

theorem within_finite {low high e : Int} {s : Sign} {m : Nat} {hm : 0 < m} :
    within low high (.finite s m e hm) = true ↔ m < 2 ^ 53 ∧ low ≤ e ∧ e ≤ high := by
  show (m < 2 ^ 53 && low ≤ e && e ≤ high : Bool) = true ↔ _
  rw [Bool.and_eq_true, Bool.and_eq_true, decide_eq_true_eq, decide_eq_true_eq, decide_eq_true_eq, and_assoc]

theorem exists_of_within {low high : Int} {u : UnpackedFloat} (h : within low high u = true) :
    ∃ s m e hm, u = .finite s m e hm ∧ m < 2 ^ 53 ∧ low ≤ e ∧ e ≤ high := by
  cases u with
  | zero | infinity | notANumber => cases h
  | finite s m e hm => exact ⟨s, m, e, hm, rfl, within_finite.mp h⟩

theorem within_unpack {b : BitVec Format.binary64.numBits} {x : Nat} {low high : Int}
    (h : (unpackExponent b).toNat = x) (hzero : x ≠ 0) (htop : x ≠ 2047) (hlow : low ≤ x - 1075)
    (hhigh : x - 1075 ≤ high) : within low high (unpack Format.binary64 b) = true := by
  have hne : unpackExponent b ≠ -1#_ := fun heq => htop (by rw [← h, heq]; rfl)
  have hne' : unpackExponent b ≠ 0#_ := fun heq => hzero (by rw [← h, heq]; rfl)
  have hmantissa := (1#1 ++ unpackMantissa b).isLt
  have hbias : Format.binary64.exponentBias = 1023 := rfl
  unfold unpack
  dsimp only
  rw [if_neg hne, if_neg hne', h, hbias]
  exact within_finite.mpr ⟨hmantissa, by omega, by omega⟩

theorem unpackExponent_pack {s : Sign} {m : Nat} {e : Int} (hm : 0 < m) (hlog : m.log2 = 52) (hlow : -1075 ≤ e)
    (hhigh : e ≤ 971) :
    (unpackExponent (UnpackedFloat.pack Format.binary64 (.finite s m e hm))).toNat = (e + 1075).toNat := by
  have hbias : Format.binary64.exponentBias = 1023 := rfl
  have hbits : Format.binary64.mantissaBits = 53 := rfl
  unfold UnpackedFloat.pack
  dsimp only
  rw [hbias, hbits, hlog, if_neg (by omega), if_pos rfl, unpackExponent_packComponents, BitVec.toNat_ofNat,
    Nat.mod_eq_of_lt (by omega)]
  omega

theorem shiftToTargetExponent_of_le {m : Nat} {e : Int} (hlog : m.log2 ≤ 52) (he : -1074 ≤ e) :
    shiftToTargetExponent Format.binary64 m e .exact = (⟨m, false, false⟩, e) := by
  have hshift : (Format.binary64.targetExponent (totalExponent m e) - e).toNat = 0 := by
    rw [targetExponent_eq, totalExponent]
    omega
  rw [shiftToTargetExponent, shiftToExponent, hshift]
  exact congrArg _ (Int.add_zero e)

theorem roundWithAccuracy_of_le {s : Sign} {m : Nat} {e : Int} (hm : 0 < m) (hlog : m.log2 ≤ 52) (he : -1074 ≤ e) :
    roundWithAccuracy Format.binary64 s m e .exact = .finite s m e hm := by
  have hrounded : (ExtendedMantissa.mk m false false).roundedMantissa = m := rfl
  rw [roundWithAccuracy, shiftToTargetExponent_of_le hlog he]
  dsimp only
  rw [hrounded, shiftToTargetExponent_of_le hlog he]
  exact dif_neg hm.ne'

/-- A whole number below `2 ^ 53` is held with its digits moved up to the top. -/
theorem exists_ofNat_eq {n : Nat} (hpos : 0 < n) (h : n < 2 ^ 53) :
    ∃ m e hm, ofNat Format.binary64 n = .finite .positive m e hm ∧ m.log2 = 52 ∧ -52 ≤ e ∧ e ≤ 0 := by
  have hlog : n.log2 < 53 := (Nat.log2_lt hpos.ne').mpr h
  have hm : 0 < n <<< (52 - n.log2) := by
    rw [Nat.shiftLeft_eq]
    exact Nat.mul_pos hpos (Nat.two_pow_pos _)
  have hfull : (n <<< (52 - n.log2)).log2 = 52 := by
    have hsplit (i : Nat) : 2 ^ (52 + i) = 2 ^ (n.log2 + i) * 2 ^ (52 - n.log2) := by
      rw [← Nat.pow_add]
      congr 1
      omega
    rw [Nat.log2_eq_iff hm.ne', Nat.shiftLeft_eq, hsplit 1, ← Nat.add_zero 52, hsplit 0]
    exact ⟨Nat.mul_le_mul_right _ (Nat.log2_self_le hpos.ne'),
      Nat.mul_lt_mul_of_pos_right Nat.lt_log2_self (Nat.two_pow_pos _)⟩
  refine ⟨n <<< (52 - n.log2), -(52 - n.log2 : Nat), hm, ?_, hfull, by omega, by omega⟩
  have hshift : ((0 : Int) - Format.binary64.targetExponent (totalExponent n 0)).toNat = 52 - n.log2 := by
    rw [targetExponent_eq, totalExponent]
    omega
  have hcompare : compare (n : Int) 0 = .gt := compare_gt_iff_gt.mpr (by omega)
  rw [ofNat, ofInt, UnpackedFloat.normalize, hcompare]
  dsimp only [Int.toNat_natCast]
  rw [UnpackedFloat.round, decreaseExponent, hshift]
  dsimp only
  rw [Int.zero_sub]
  exact roundWithAccuracy_of_le hm hfull.le (by omega)

theorem toFloat_cases {n : Nat} (h : n < 2 ^ 53) :
    n.toUInt64.toFloat.toModel.unpack = .zero .positive ∨
      within (-52) 0 n.toUInt64.toFloat.toModel.unpack = true := by
  have hmodel : n.toUInt64.toFloat.toModel = .pack (ofNat Format.binary64 n.toUInt64.toNat) := rfl
  have hvalue : n.toUInt64.toNat = n := by
    rw [Nat.toUInt64_eq, UInt64.toNat_ofNat', Nat.mod_eq_of_lt (by omega)]
  rcases Nat.eq_zero_or_pos n with rfl | hpos
  · exact .inl rfl
  · obtain ⟨m, e, hm, hnat, hlog, hlow, hhigh⟩ := exists_ofNat_eq hpos h
    rw [hmodel, hvalue, hnat]
    exact .inr (within_unpack (unpackExponent_pack hm hlog (by omega) (by omega)) (by omega) (by omega) (by omega)
      (by omega))

theorem within_powerOfTen {k : Nat} (h : k ≤ 22) :
    within (-52) 21 (getElem Float.exactlyRepresentablePowersOfTen k (Nat.lt_succ_of_le h)).toModel.unpack = true := by
  have hall : ∀ i : Fin 23,
      within (-52) 21 (getElem Float.exactlyRepresentablePowersOfTen i.val i.isLt).toModel.unpack = true := by
    decide +kernel
  exact hall ⟨k, Nat.lt_succ_of_le h⟩

section
variable {u v : UnpackedFloat} (hu : u = .zero .positive ∨ within (-52) 0 u = true) (hv : within (-52) 21 v = true)
include hu hv

theorem fits_mul_of_within : Fits (mul Format.binary64 u v) := by
  obtain ⟨t, m', e', hm', rfl, hmantissa', hlow', hhigh'⟩ := exists_of_within hv
  rcases hu with rfl | hu
  · trivial
  · obtain ⟨s, m, e, hm, rfl, hmantissa, hlow, hhigh⟩ := exists_of_within hu
    rw [fits_mul_iff (by omega)]
    calc m * m' < 2 ^ 53 * 2 ^ 53 := Nat.mul_lt_mul'' hmantissa hmantissa'
      _ = 2 ^ 106 := rfl
      _ ≤ ones (970 - (e + e')).toNat := two_pow_le_ones (by omega)

theorem fits_div_of_within : Fits (div Format.binary64 u v) := by
  obtain ⟨t, m', e', hm', rfl, hmantissa', hlow', hhigh'⟩ := exists_of_within hv
  rcases hu with rfl | hu
  · trivial
  · obtain ⟨s, m, e, hm, rfl, hmantissa, hlow, hhigh⟩ := exists_of_within hu
    rw [fits_div_iff (by omega)]
    calc m < 2 ^ 53 := hmantissa
      _ ≤ ones (970 - (e - e')).toNat := two_pow_le_ones (by omega)
      _ ≤ ones (970 - (e - e')).toNat * m' := Nat.le_mul_of_pos_right _ hm'

end

/-- Few digits with a small power of ten are multiplied or divided in the format, and stay in it. -/
theorem isFinite_ofScientific_of_small {n k : Nat} (h : n < 2 ^ 53 ∧ k ≤ 22) (s : Bool) :
    (Float.ofScientific n s k).isFinite = true := by
  rw [Float.ofScientific, dif_pos h]
  dsimp only
  split
  · exact (isFinite_pack_iff _).mpr (fits_div_of_within (toFloat_cases h.1) (within_powerOfTen h.2))
  · exact (isFinite_pack_iff _).mpr (fits_mul_of_within (toFloat_cases h.1) (within_powerOfTen h.2))

/-! ### The border -/

theorem isFinite_ofScientific_iff (digits : Nat) (scale : Int) :
    (Float.ofScientific digits (scale < 0) scale.natAbs).isFinite = true ↔
      digits * 10 ^ scale.toNat < ones 970 * 10 ^ (-scale).toNat := by
  by_cases hsmall : digits < 2 ^ 53 ∧ scale.natAbs ≤ 22
  · refine iff_of_true (isFinite_ofScientific_of_small hsmall _) ?_
    calc digits * 10 ^ scale.toNat < 2 ^ 53 * 10 ^ 22 :=
          Nat.mul_lt_mul_of_lt_of_le hsmall.1 (Nat.pow_le_pow_right (by decide) (by omega)) (by decide)
      _ ≤ 2 ^ 200 := by decide
      _ ≤ ones 970 := two_pow_le_ones (by decide)
      _ ≤ ones 970 * 10 ^ (-scale).toNat := Nat.le_mul_of_pos_right _ (Nat.pow_pos (by decide))
  · have hscale :
        (if decide (scale < 0) = true then Int.negOfNat scale.natAbs else Int.ofNat scale.natAbs) = scale := by
      simp only [decide_eq_true_eq, Int.negOfNat_eq, Int.ofNat_eq_natCast]
      split <;> omega
    rw [Float.ofScientific, dif_neg hsmall, ← fits_ofScientific_iff]
    simp only [hscale]
    exact isFinite_pack_iff _

theorem cast_ones (n : Nat) : ((ones n : Nat) : ℚ) = 2 ^ (54 + n) - 2 ^ n := by
  rw [ones, Nat.cast_mul, Nat.cast_pow, pow_add]
  push_cast
  ring

/-- A decimal has a nearest number in the format just if its value is below halfway from the largest one to
`2 ^ 1024`. -/
theorem isFinite_ofScientific_iff_lt (digits : Nat) (scale : Int) :
    (Float.ofScientific digits (scale < 0) scale.natAbs).isFinite = true ↔
      (digits : ℚ) * 10 ^ scale < 2 ^ 1024 - 2 ^ 970 := by
  have hten (k : Nat) : (0 : ℚ) < 10 ^ k := pow_pos (by norm_num) k
  have hones : ((ones 970 : Nat) : ℚ) = 2 ^ 1024 - 2 ^ 970 := cast_ones 970
  rw [isFinite_ofScientific_iff, ← hones, ← Nat.cast_lt (α := ℚ)]
  push_cast
  rcases Int.le_total 0 scale with hscale | hscale
  · obtain ⟨k, rfl⟩ := Int.eq_ofNat_of_zero_le hscale
    rw [show (-(k : Int)).toNat = 0 by omega, Int.toNat_natCast, pow_zero, mul_one, zpow_natCast]
  · obtain ⟨k, hk⟩ := Int.eq_ofNat_of_zero_le (Int.neg_nonneg_of_nonpos hscale)
    obtain rfl : scale = -(k : Int) := by omega
    rw [show (-(k : Int)).toNat = 0 by omega, Int.neg_neg, Int.toNat_natCast, pow_zero, mul_one, zpow_neg,
      zpow_natCast, mul_inv_lt_iff₀ (hten k)]

end HtmlComponents.Decimal
