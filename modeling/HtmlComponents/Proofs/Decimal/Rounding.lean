import Mathlib.Algebra.Order.Ring.Nat
import Mathlib.Tactic.Set

/-!
# Rounding to a binary number

Which numbers survive being packed in 64 bits (`isFinite_pack_iff`), and when rounding a mantissa keeps
within the format: `fits_roundWithAccuracy_iff`. The border is halfway between the largest finite number,
`(2 ^ 53 - 1) * 2 ^ 971`, and `2 ^ 1024`; it has 54 binary ones (`ones`).
-/

namespace HtmlComponents.Decimal

open Float.Model (totalExponent Format UnpackedFloat)
open Float.Model.UnpackedFloat

/-- An unpacked number that a packed one can hold: it is neither infinite nor too large. -/
def Fits : UnpackedFloat → Prop
  | .zero _ => True
  | .finite _ _ e _ => e ≤ 971
  | .infinity _ | .notANumber => False

/-- What is unpacked is finite, and fits, unless all bits of its exponent are set. -/
theorem unpack_cases (b : BitVec Format.binary64.numBits) :
    (unpackExponent b = -1#_ ∧
      (unpack Format.binary64 b).isFinite = false ∧ ¬Fits (unpack Format.binary64 b)) ∨
    (unpackExponent b ≠ -1#_ ∧
      (unpack Format.binary64 b).isFinite = true ∧ Fits (unpack Format.binary64 b)) := by
  by_cases hones : unpackExponent b = -1#_
  · refine .inl ⟨hones, ?_⟩
    unfold unpack
    dsimp only
    rw [if_pos hones]
    by_cases hmantissa : unpackMantissa b = 0#_
    · rw [if_pos hmantissa]
      exact ⟨rfl, id⟩
    · rw [if_neg hmantissa]
      exact ⟨rfl, id⟩
  · refine .inr ⟨hones, ?_⟩
    have hne : (unpackExponent b).toNat ≠ 2047 := fun heq => hones (BitVec.eq_of_toNat_eq heq)
    have hlt : (unpackExponent b).toNat < 2048 := (unpackExponent b).isLt
    unfold unpack
    dsimp only
    rw [if_neg hones]
    by_cases hzero : unpackExponent b = 0#_
    · rw [if_pos hzero]
      by_cases hmantissa : unpackMantissa b = 0#_
      · rw [dif_pos hmantissa]
        exact ⟨rfl, trivial⟩
      · rw [dif_neg hmantissa, hzero]
        exact ⟨rfl, (by decide : (-1074 : Int) ≤ 971)⟩
    · rw [if_neg hzero]
      refine ⟨rfl, ?_⟩
      show ((unpackExponent b).toNat : Int) - (1023 + 52) ≤ 971
      omega

theorem isFinite_unpack_iff (b : BitVec Format.binary64.numBits) :
    (unpack Format.binary64 b).isFinite = true ↔ unpackExponent b ≠ -1#_ := by
  rcases unpack_cases b with ⟨hones, hfinite, -⟩ | ⟨hones, hfinite, -⟩
  · exact iff_of_false (ne_true_of_eq_false hfinite) (not_not_intro hones)
  · exact iff_of_true hfinite hones

theorem fits_unpack_iff (b : BitVec Format.binary64.numBits) :
    Fits (unpack Format.binary64 b) ↔ (unpack Format.binary64 b).isFinite = true := by
  rcases unpack_cases b with ⟨-, hfinite, hfits⟩ | ⟨-, hfinite, hfits⟩
  · exact iff_of_false hfits (ne_true_of_eq_false hfinite)
  · exact iff_of_true hfits hfinite

theorem isFinite_pack_iff (u : UnpackedFloat) : (Float.Model.pack u).isFinite = true ↔ Fits u := by
  show (unpack Format.binary64 (UnpackedFloat.pack Format.binary64 u)).isFinite = true ↔ _
  rw [isFinite_unpack_iff]
  cases u with
  | notANumber => exact iff_of_false (not_not_intro (unpackExponent_packComponents ..)) id
  | infinity s => exact iff_of_false (not_not_intro (unpackExponent_packComponents ..)) id
  | zero s =>
    refine iff_of_true (fun h => ?_) trivial
    exact absurd ((unpackExponent_packComponents ..).symm.trans h) (by decide)
  | finite s m e hm =>
    show @unpackExponent Format.binary64 (if 2 ^ 11 ≤ (e + (1023 : Nat) + (52 : Nat)).toNat + 1 then
        packedInfinity Format.binary64 s
      else if m.log2 + 1 = 53 then
        packComponents Format.binary64 s (.ofNat 11 (e + (1023 : Nat) + (52 : Nat)).toNat) (.ofNat 52 m)
      else packComponents Format.binary64 s 0#11 (.ofNat 52 m)) ≠ -1#_ ↔ e ≤ 971
    by_cases hlarge : 2 ^ 11 ≤ (e + (1023 : Nat) + (52 : Nat)).toNat + 1
    · rw [if_pos hlarge]
      exact iff_of_false (not_not_intro (unpackExponent_packComponents ..)) (by omega)
    · rw [if_neg hlarge]
      refine iff_of_true (fun h => ?_) (by omega)
      by_cases hbits : m.log2 + 1 = 53
      · rw [if_pos hbits, unpackExponent_packComponents] at h
        have hvalue : (e + (1023 : Nat) + (52 : Nat)).toNat % 2 ^ 11 = 2047 := congrArg BitVec.toNat h
        rw [Nat.mod_eq_of_lt (by omega)] at hvalue
        omega
      · rw [if_neg hbits, unpackExponent_packComponents] at h
        exact absurd h (by decide)

theorem fits_neg_iff (u : UnpackedFloat) : Fits u.neg ↔ Fits u := by
  cases u <;> rfl

theorem isFinite_neg (x : Float) : (-x).isFinite = x.isFinite := by
  rw [Bool.eq_iff_iff]
  exact ((isFinite_pack_iff _).trans (fits_neg_iff _)).trans (fits_unpack_iff _)

/-! ### Rounding -/

section
variable (em : ExtendedMantissa) (k : Nat)

theorem shiftRight_succ : em >>> (k + 1) = (em >>> k).shiftRightOne := rfl

theorem mantissa_shiftRight : (em >>> k).mantissa = em.mantissa / 2 ^ k := by
  induction k with
  | zero => exact (Nat.div_one _).symm
  | succ k ih => rw [shiftRight_succ, ExtendedMantissa.shiftRightOne, ih, Nat.div_div_eq_div_mul, Nat.pow_succ]

/-- The round bit is the first of the bits that were shifted out. -/
theorem roundBit_shiftRight :
    2 * (em >>> (k + 1)).mantissa + (em >>> (k + 1)).roundBit.toNat = em.mantissa / 2 ^ k := by
  rw [shiftRight_succ, ← mantissa_shiftRight, ExtendedMantissa.shiftRightOne]
  generalize (em >>> k).mantissa = m
  rcases Nat.mod_two_eq_zero_or_one m with h | h <;> simp [h] <;> omega

theorem mantissa_ofMantissaAndAccuracy (m : Nat) (accuracy : Accuracy) :
    (ExtendedMantissa.ofMantissaAndAccuracy m accuracy).mantissa = m := by
  unfold ExtendedMantissa.ofMantissaAndAccuracy
  split <;> rfl

theorem le_roundedMantissa : em.mantissa ≤ em.roundedMantissa := by
  obtain ⟨m, roundBit, stickyBit⟩ := em
  cases roundBit <;> cases stickyBit <;> simp [ExtendedMantissa.roundedMantissa, ExtendedMantissa.accuracy,
    Accuracy.roundToNearestEven]

theorem roundedMantissa_le : em.roundedMantissa ≤ em.mantissa + em.roundBit.toNat := by
  obtain ⟨m, roundBit, stickyBit⟩ := em
  cases roundBit <;> cases stickyBit <;> simp [ExtendedMantissa.roundedMantissa, ExtendedMantissa.accuracy,
    Accuracy.roundToNearestEven]
  omega

theorem roundedMantissa_of_odd (h : em.mantissa % 2 = 1) :
    em.roundedMantissa = em.mantissa + em.roundBit.toNat := by
  obtain ⟨m, roundBit, stickyBit⟩ := em
  cases roundBit <;> cases stickyBit <;> simp_all [ExtendedMantissa.roundedMantissa, ExtendedMantissa.accuracy,
    Accuracy.roundToNearestEven]

end

theorem targetExponent_eq (total : Int) : Format.binary64.targetExponent total = max (total - 53) (-1074) := rfl

theorem log2_lt_of_lt {m k : Nat} (hk : 0 < k) (h : m < 2 ^ k) : m.log2 < k := by
  rcases Nat.eq_zero_or_pos m with rfl | hm
  · exact hk
  · exact (Nat.log2_lt hm.ne').mpr h

/-- What is rounded fits if the exponent behind the second shift does; a zero has none. -/
theorem fits_round_iff {m : Nat} {e : Int} {accuracy : Accuracy} {first : ExtendedMantissa × Int}
    (h : shiftToTargetExponent Format.binary64 m e accuracy = first) (sign : Sign) :
    Fits (roundWithAccuracy Format.binary64 sign m e accuracy) ↔
      first.1.roundedMantissa = 0 ∨
        max first.2 (Format.binary64.targetExponent (totalExponent first.1.roundedMantissa first.2)) ≤ 971 := by
  have hround : roundWithAccuracy Format.binary64 sign m e accuracy =
      let last := shiftToTargetExponent Format.binary64 first.1.roundedMantissa first.2 .exact
      if h : last.1.mantissa = 0 then .zero sign
      else .finite sign last.1.mantissa last.2 (Nat.pos_of_ne_zero h) := by rw [← h]; rfl
  have hfirst : -1074 ≤ first.2 := by
    rw [← h]
    show -1074 ≤ e + ((Format.binary64.targetExponent (totalExponent m e) - e).toNat : Int)
    rw [targetExponent_eq]
    omega
  rw [hround]
  generalize first.1.roundedMantissa = r
  generalize first.2 = e₁ at hfirst
  dsimp only [shiftToTargetExponent, shiftToExponent]
  rw [mantissa_shiftRight, mantissa_ofMantissaAndAccuracy]
  set k := (Format.binary64.targetExponent (totalExponent r e₁) - e₁).toNat with hk
  rcases Nat.eq_zero_or_pos r with rfl | hr
  · rw [dif_pos (Nat.zero_div _)]
    exact iff_of_true trivial (.inl rfl)
  · -- the second shift keeps the leading digit
    have hshift : k ≤ r.log2 := by
      rw [targetExponent_eq, totalExponent] at hk
      omega
    have hle : 2 ^ k ≤ r := (Nat.pow_le_pow_right (by decide) hshift).trans (Nat.log2_self_le hr.ne')
    rw [dif_neg (Nat.div_pos hle (Nat.two_pow_pos k)).ne', or_iff_right hr.ne']
    show e₁ + (k : Int) ≤ 971 ↔ _
    omega

/-- What has 54 binary digits before `n` others, all of them one. -/
def ones (n : Nat) : Nat := (2 ^ 54 - 1) * 2 ^ n

theorem ones_pos (n : Nat) : 0 < ones n := Nat.mul_pos (by decide) (Nat.two_pow_pos n)

theorem ones_add (n k : Nat) : ones (n + k) = ones n * 2 ^ k := by
  rw [ones, ones, Nat.pow_add, Nat.mul_assoc]

theorem two_pow_le_ones {k n : Nat} (h : k ≤ n) : 2 ^ k ≤ ones n :=
  (Nat.pow_le_pow_right (by decide) h).trans (Nat.le_mul_of_pos_left _ (by decide))

theorem ones_le_ten_pow {n k : Nat} (h : 54 + n ≤ k) : ones n ≤ 10 ^ k :=
  calc ones n ≤ 2 ^ 54 * 2 ^ n := Nat.mul_le_mul_right _ (by decide)
    _ = 2 ^ (54 + n) := (Nat.pow_add 2 54 n).symm
    _ ≤ 2 ^ k := Nat.pow_le_pow_right (by decide) h
    _ ≤ 10 ^ k := Nat.pow_le_pow_left (by decide) k

theorem log2_roundedMantissa_lt (em : ExtendedMantissa) {b k : Nat} (h : em.mantissa < 2 ^ (b + k)) :
    (em >>> k).roundedMantissa.log2 < b + 1 := by
  have hquotient : em.mantissa / 2 ^ k < 2 ^ b := by
    refine Nat.div_lt_of_lt_mul ?_
    rwa [← Nat.pow_add, Nat.add_comm]
  have hhigh := roundedMantissa_le (em >>> k)
  have hbit := Bool.toNat_le (em >>> k).roundBit
  rw [mantissa_shiftRight] at hhigh
  refine log2_lt_of_lt (Nat.succ_pos b) ?_
  have hpos := Nat.two_pow_pos b
  rw [Nat.pow_succ]
  omega

theorem roundedMantissa_pos (em : ExtendedMantissa) {k : Nat} (h : 2 ^ k ≤ em.mantissa) :
    0 < (em >>> k).roundedMantissa := by
  refine Nat.lt_of_lt_of_le ?_ (le_roundedMantissa (em >>> k))
  rw [mantissa_shiftRight]
  exact Nat.div_pos h (Nat.two_pow_pos k)

/-- A mantissa of 53 digits with `n + 1` behind them rounds up to `2 ^ 53` if the first 54 are all one. -/
theorem roundedMantissa_lt_iff (em : ExtendedMantissa) {n : Nat} (h : em.mantissa < 2 ^ (n + 1) * 2 ^ 53) :
    (em >>> (n + 1)).roundedMantissa < 2 ^ 53 ↔ em.mantissa < ones n := by
  have hquotient := Nat.div_lt_of_lt_mul h
  have hmantissa := mantissa_shiftRight em (n + 1)
  have hlow := le_roundedMantissa (em >>> (n + 1))
  have hhigh := roundedMantissa_le (em >>> (n + 1))
  -- the largest mantissa is odd, so a tie is rounded away from it
  have hodd := roundedMantissa_of_odd (em >>> (n + 1))
  rw [ones, ← Nat.div_lt_iff_lt_mul (Nat.two_pow_pos n), ← roundBit_shiftRight]
  have hbit := Bool.toNat_le (em >>> (n + 1)).roundBit
  omega

/-- Rounding overflows from halfway between the largest number of the format and the next one. -/
theorem fits_roundWithAccuracy_iff (sign : Sign) (m : Nat) {e : Int} (he : e ≤ 970) (accuracy : Accuracy) :
    Fits (roundWithAccuracy Format.binary64 sign m e accuracy) ↔ m < ones (970 - e).toNat := by
  obtain ⟨n, rfl⟩ : ∃ n : Nat, e = 970 - n := ⟨(970 - e).toNat, by omega⟩
  rw [fits_round_iff rfl, show (970 - (970 - (n : Int))).toNat = n by omega]
  dsimp only [shiftToTargetExponent, shiftToExponent]
  generalize hk : (Format.binary64.targetExponent (totalExponent m (970 - n)) - (970 - n)).toNat = k
  rw [targetExponent_eq, totalExponent] at hk ⊢
  generalize hem : ExtendedMantissa.ofMantissaAndAccuracy m accuracy = em
  have hmantissa : em.mantissa = m := hem ▸ mantissa_ofMantissaAndAccuracy m accuracy
  have hpow (i : Nat) : 2 ^ (i + n) = 2 ^ i * 2 ^ n := Nat.pow_add 2 i n
  rcases lt_trichotomy m.log2 (n + 53) with hsmall | hmiddle | hlarge
  · -- fewer digits than the format holds: rounding adds one at most
    have hm : m < 2 ^ (53 + n) :=
      Nat.lt_log2_self.trans_le (Nat.pow_le_pow_right (by decide) (by omega))
    have hones : 2 ^ (53 + n) ≤ ones n := by
      rw [ones, hpow]
      exact Nat.mul_le_mul_right _ (by decide)
    refine iff_of_true (.inr ?_) (hm.trans_le hones)
    have hrounded : (em >>> k).roundedMantissa.log2 < 53 + n - k + 1 :=
      log2_roundedMantissa_lt em (by rwa [hmantissa, Nat.sub_add_cancel (by omega)])
    omega
  · obtain rfl : k = n + 1 := by omega
    have hm : m < 2 ^ (n + 1) * 2 ^ 53 := by
      rw [← Nat.pow_add, show n + 1 + 53 = m.log2 + 1 by omega]
      exact Nat.lt_log2_self
    rw [← hmantissa, ← roundedMantissa_lt_iff em (hmantissa ▸ hm)]
    generalize (em >>> (n + 1)).roundedMantissa = r
    rcases Nat.eq_zero_or_pos r with rfl | hr
    · exact iff_of_true (.inl rfl) (by decide)
    · rw [← Nat.log2_lt hr.ne', or_iff_right hr.ne']
      omega
  · have hne : m ≠ 0 := by
      rintro rfl
      simp at hlarge
    have hm (i : Nat) (hi : i ≤ m.log2) : 2 ^ i ≤ m :=
      (Nat.pow_le_pow_right (by decide) hi).trans (Nat.log2_self_le hne)
    have hones : ones n ≤ 2 ^ (54 + n) := by
      rw [ones, hpow]
      exact Nat.mul_le_mul_right _ (by decide)
    refine iff_of_false ?_ (Nat.not_lt.mpr (hones.trans (hm _ (by omega))))
    have hpos := roundedMantissa_pos em (hmantissa ▸ hm k (by omega))
    omega

end HtmlComponents.Decimal
