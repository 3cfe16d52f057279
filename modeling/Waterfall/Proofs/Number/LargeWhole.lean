import Waterfall.Number.Tie
import Waterfall.Proofs.Number.WholeDouble

/-!
# Large whole numbers as doubles

From `2^63` to `2^64` doubles stand 2048 apart, so a whole number there becomes the nearest multiple of
2048 and a half goes to the even one (`ofFloat_doubleOfInt_large`). Numbers near the upper end become
`2^64` itself, whose mantissa has to be shifted once more.

The rounding is done on the bits that a shift drops: the highest of them is kept, and of the others
whether they are all zero. Together they say as much as the remainder does.
-/

namespace Waterfall

open Float.Model (Format totalExponent UnpackedFloat)
open Float.Model.UnpackedFloat

/-! ## Rounding by the bits that a shift drops -/

theorem mod_two_pow_succ_eq_zero_iff (n k : Nat) :
    n % 2 ^ (k + 1) = 0 ↔ n / 2 ^ k % 2 = 0 ∧ n % 2 ^ k = 0 := by
  have hunit : 0 < 2 ^ k := Nat.two_pow_pos k
  rw [Nat.mod_pow_succ, Nat.add_eq_zero_iff, Nat.mul_eq_zero]
  omega

theorem shiftRight_exact (n k : Nat) :
    ExtendedMantissa.ofMantissaAndAccuracy n .exact >>> (k + 1) =
      ⟨n / 2 ^ (k + 1), n / 2 ^ k % 2 != 0, n % 2 ^ k != 0⟩ := by
  induction k with
  | zero =>
    show ExtendedMantissa.shiftRightOne ⟨n, false, false⟩ = _
    simp [ExtendedMantissa.shiftRightOne, Nat.mod_one]
  | succ k ih =>
    have hstep : ExtendedMantissa.ofMantissaAndAccuracy n .exact >>> (k + 1 + 1) =
        (ExtendedMantissa.ofMantissaAndAccuracy n .exact >>> (k + 1)).shiftRightOne := rfl
    have hsticky : (n / 2 ^ k % 2 != 0 || n % 2 ^ k != 0) = (n % 2 ^ (k + 1) != 0) := by
      rw [Bool.eq_iff_iff]
      have := mod_two_pow_succ_eq_zero_iff n k
      simp only [Bool.or_eq_true, bne_iff_ne, ne_eq, this]
      tauto
    rw [hstep, ih, ExtendedMantissa.shiftRightOne, Nat.div_div_eq_div_mul, ← pow_succ, hsticky]

theorem roundedMantissa_mk (q : Nat) (round sticky : Bool) :
    (ExtendedMantissa.mk q round sticky).roundedMantissa =
      if round then if sticky then q + 1 else q + q % 2 else q := by
  cases round <;> cases sticky <;> rfl

/-- A shifted mantissa is rounded as the quotient is. -/
theorem roundedMantissa_shiftRight (n k : Nat) :
    (ExtendedMantissa.ofMantissaAndAccuracy n .exact >>> (k + 1)).roundedMantissa =
      roundDiv n (2 ^ (k + 1)) .toEven := by
  have hrest : n % 2 ^ (k + 1) = n % 2 ^ k + 2 ^ k * (n / 2 ^ k % 2) := Nat.mod_pow_succ
  have hlow : n % 2 ^ k < 2 ^ k := Nat.mod_lt _ (Nat.two_pow_pos k)
  have hunit : 2 ^ (k + 1) = 2 * 2 ^ k := pow_succ' 2 k
  simp only [shiftRight_exact, roundedMantissa_mk, roundDiv]
  -- The highest bit that is dropped decides, and after it whether the others are all zero.
  rcases Nat.mod_two_eq_zero_or_one (n / 2 ^ k) with hround | hround
  · have hdown : 2 * (n % 2 ^ (k + 1)) < 2 ^ (k + 1) := by
      rw [hrest, hround, hunit]
      omega
    simp [hround, hdown]
  · have hnot : ¬ 2 * (n % 2 ^ (k + 1)) < 2 ^ (k + 1) := by
      rw [hrest, hround, hunit]
      omega
    by_cases hsticky : n % 2 ^ k = 0
    · have htie : ¬ 2 ^ (k + 1) < 2 * (n % 2 ^ (k + 1)) := by
        rw [hrest, hround, hunit]
        omega
      simp only [hround, hsticky, hnot, htie, if_false]
      show n / 2 ^ (k + 1) + n / 2 ^ (k + 1) % 2 = _
      split <;> omega
    · have hup : 2 ^ (k + 1) < 2 * (n % 2 ^ (k + 1)) := by
        rw [hrest, hround, hunit]
        omega
      simp [hround, hsticky, hnot, hup]

/-! ## From `2^63` to `2^64` -/

/-- The mantissa and the exponent of so many times 2048. -/
def timesUnit (q : Nat) : Nat × Int := if q = 2 ^ 53 then (2 ^ 52, 12) else (q, 11)

theorem roundDiv_bounds {n : Nat} (hn : 2 ^ 63 ≤ n) (hlt : n < 2 ^ 64) :
    2 ^ 52 ≤ roundDiv n 2048 .toEven ∧ roundDiv n 2048 .toEven ≤ 2 ^ 53 := by
  rcases roundDiv_eq_or n 2048 .toEven with h | h <;> rw [h] <;> omega

theorem leading_timesUnit {q : Nat} (hq : 2 ^ 52 ≤ q ∧ q ≤ 2 ^ 53) :
    Leading (timesUnit q).1 ∧ -52 ≤ (timesUnit q).2 ∧ (timesUnit q).2 ≤ 12 := by
  unfold timesUnit Leading
  split <;> omega

/-- A mantissa that a carry has made too long is shifted once more; any other stays as it is. -/
theorem shiftToTargetExponent_carried {q : Nat} (hq : 2 ^ 52 ≤ q ∧ q ≤ 2 ^ 53) :
    (shiftToTargetExponent .binary64 q 11 .exact).1.mantissa = (timesUnit q).1 ∧
      (shiftToTargetExponent .binary64 q 11 .exact).2 = (timesUnit q).2 := by
  by_cases hcarry : q = 2 ^ 53
  · subst hcarry
    decide +kernel
  · have hlog : q.log2 = 52 := log2_of_leading ⟨hq.1, by omega⟩
    have hamount : (Format.binary64.targetExponent (totalExponent q 11) - 11).toNat = 0 := by
      rw [totalExponent, hlog]
      rfl
    simp only [shiftToTargetExponent, shiftToExponent, hamount, mantissa_shiftRight, timesUnit, hcarry,
      if_false]
    exact ⟨Nat.div_one q, rfl⟩

/-- A large whole number is rounded to a multiple of 2048. -/
theorem round_large {n : Nat} (hn : 2 ^ 63 ≤ n) (hlt : n < 2 ^ 64) :
    ∃ h, UnpackedFloat.round .binary64 .positive n 0 =
      .finite .positive (timesUnit (roundDiv n 2048 .toEven)).1 (timesUnit (roundDiv n 2048 .toEven)).2 h := by
  have hq := roundDiv_bounds hn hlt
  have hlog : n.log2 = 63 := (Nat.log2_eq_iff (by omega)).mpr ⟨hn, hlt⟩
  have htarget : Format.binary64.targetExponent (totalExponent n 0) = 11 := by
    rw [totalExponent, hlog]
    rfl
  have hrounded : (shiftToTargetExponent .binary64 n 0 .exact).1.roundedMantissa =
      roundDiv n 2048 .toEven := by
    simp only [shiftToTargetExponent, shiftToExponent, htarget]
    exact roundedMantissa_shiftRight n 10
  have hexponent : (shiftToTargetExponent .binary64 n 0 .exact).2 = 11 := by
    simp only [shiftToTargetExponent, shiftToExponent, htarget]
    rfl
  obtain ⟨hmantissa, hexponent'⟩ := shiftToTargetExponent_carried hq
  have hpos : 0 < (timesUnit (roundDiv n 2048 .toEven)).1 := by
    have := (leading_timesUnit hq).1.1
    omega
  refine ⟨hpos, ?_⟩
  have hkept : decreaseExponent n 0 11 = (n, 0) := by
    simp [decreaseExponent]
  simp only [UnpackedFloat.round, htarget, hkept, roundWithAccuracy, hrounded, hexponent, hmantissa,
    hexponent', dif_neg hpos.ne']

/-- **A large whole number as a double**: the multiple of 2048 that is nearest to it, a half going to the
even one. -/
theorem ofFloat_doubleOfInt_large {n : Nat} (hn : 2 ^ 63 ≤ n) (hlt : n < 2 ^ 64) :
    Binary.ofFloat (doubleOfInt n) = .finite false (timesUnit (roundDiv n 2048 .toEven)).1
      (timesUnit (roundDiv n 2048 .toEven)).2 := by
  obtain ⟨hpos, hround⟩ := round_large hn hlt
  obtain ⟨hleading, hexponent⟩ := leading_timesUnit (roundDiv_bounds hn hlt)
  have hne : n ≠ 0 := by omega
  have hsign : ¬ (n : Int) < 0 := by omega
  have hrounded : (Binary.ofInt n).rounded .binary64 = UnpackedFloat.round .binary64 .positive n 0 := by
    simp [Binary.ofInt, Binary.rounded, Binary.signOf, hne, hsign]
  have hvalue : (doubleOfInt n).toModel.unpack = UnpackedFloat.round .binary64 .positive n 0 := by
    rw [doubleOfInt, Binary.toFloat, hrounded, hround]
    exact unpack_pack_leading .positive hpos hleading hexponent
  rw [Binary.ofFloat, hvalue, hround, Binary.ofUnpacked]

end Waterfall
