import Mathlib
import Waterfall.Number.Binary

/-!
# Positive whole numbers as doubles

`doubleOfInt` rounds to 53 bits. For a positive whole number in the range of times the rounded mantissa
keeps its leading bit and the exponent stays far from both ends of the format, so what is packed is a
normal number and unpacks as a positive finite one (`zero_lt_doubleOfInt`). Division by such a double is
never division by zero.

Only sign and order are settled here, not how near the double lies to the whole number.
-/

namespace Waterfall

open Float.Model (Format totalExponent UnpackedFloat)
open Float.Model.UnpackedFloat

/-! ## Shifting and rounding a mantissa -/

theorem mantissa_shiftRight (em : ExtendedMantissa) (k : Nat) :
    (em >>> k).mantissa = em.mantissa / 2 ^ k := by
  induction k with
  | zero =>
    rw [pow_zero, Nat.div_one]
    rfl
  | succ k ih =>
    have hstep : em >>> (k + 1) = (em >>> k).shiftRightOne := rfl
    rw [hstep, ExtendedMantissa.shiftRightOne, ih, Nat.div_div_eq_div_mul, pow_succ]

theorem roundedMantissa_bounds (em : ExtendedMantissa) :
    em.mantissa ≤ em.roundedMantissa ∧ em.roundedMantissa ≤ em.mantissa + 1 := by
  obtain ⟨m, round, sticky⟩ := em
  cases round <;> cases sticky <;>
    simp only [ExtendedMantissa.roundedMantissa, ExtendedMantissa.accuracy,
      Accuracy.roundToNearestEven] <;> omega

/-- A mantissa of exactly 53 bits. -/
def Leading (m : Nat) : Prop := 2 ^ 52 ≤ m ∧ m < 2 ^ 53

theorem log2_of_leading {m : Nat} (h : Leading m) : m.log2 = 52 :=
  (Nat.log2_eq_iff (by have := h.1; omega)).mpr h

/-- Shifting a long mantissa to the exponent of its format leaves 53 bits. -/
theorem leading_shiftToTargetExponent {m : Nat} {e : Int} (hm : 2 ^ 52 ≤ m) (he : -52 ≤ e) :
    Leading (shiftToTargetExponent .binary64 m e .exact).1.mantissa ∧
      (shiftToTargetExponent .binary64 m e .exact).2 = e + (m.log2 - 52 : Nat) := by
  have hpos : m ≠ 0 := by omega
  have hlog : 52 ≤ m.log2 := (Nat.le_log2 hpos).mpr hm
  have hamount : (Format.binary64.targetExponent (totalExponent m e) - e).toNat = m.log2 - 52 := by
    simp only [Format.targetExponent, totalExponent, Format.mantissaBits, Format.minExponent]
    omega
  have hself := Nat.log2_self_le hpos
  have hnext := Nat.lt_log2_self (n := m)
  have hlow : 2 ^ 52 * 2 ^ (m.log2 - 52) = 2 ^ m.log2 := by
    rw [← pow_add]
    congr 1
    omega
  have hhigh : 2 ^ 53 * 2 ^ (m.log2 - 52) = 2 ^ (m.log2 + 1) := by
    rw [← pow_add]
    congr 1
    omega
  have hunit : 0 < 2 ^ (m.log2 - 52) := Nat.two_pow_pos _
  simp only [shiftToTargetExponent, shiftToExponent, hamount, mantissa_shiftRight]
  refine ⟨⟨?_, ?_⟩, trivial⟩
  · show 2 ^ 52 ≤ m / 2 ^ (m.log2 - 52)
    rw [Nat.le_div_iff_mul_le hunit]
    omega
  · show m / 2 ^ (m.log2 - 52) < 2 ^ 53
    rw [Nat.div_lt_iff_lt_mul hunit]
    omega

/-- Rounding a long mantissa leaves a number of 53 bits; a carry is shifted away again. -/
theorem roundWithAccuracy_leading {m : Nat} {e : Int} (hm : 2 ^ 52 ≤ m) (hlt : m < 2 ^ 63)
    (he : -52 ≤ e) (he₀ : e ≤ 0) :
    ∃ m' e' h, roundWithAccuracy .binary64 .positive m e .exact = .finite .positive m' e' h ∧
      Leading m' ∧ -52 ≤ e' ∧ e' ≤ 12 := by
  obtain ⟨hfirst, hexp⟩ := leading_shiftToTargetExponent hm he
  have hlog : m.log2 < 63 := (Nat.log2_lt (by omega)).mpr hlt
  set first := shiftToTargetExponent .binary64 m e .exact with hdef
  obtain ⟨hlow, hhigh⟩ := roundedMantissa_bounds first.1
  have hcarry : first.1.roundedMantissa ≤ 2 ^ 53 := hhigh.trans hfirst.2
  have hcarryLog : first.1.roundedMantissa.log2 < 54 :=
    (Nat.log2_lt (by have := hfirst.1; omega)).mpr (by omega)
  have hagain : 2 ^ 52 ≤ first.1.roundedMantissa := hfirst.1.trans hlow
  obtain ⟨hsecond, hexp'⟩ := leading_shiftToTargetExponent hagain (show -52 ≤ first.2 by omega)
  set second := shiftToTargetExponent .binary64 first.1.roundedMantissa first.2 .exact with hdef'
  have hne : second.1.mantissa ≠ 0 := by
    have := hsecond.1
    omega
  refine ⟨second.1.mantissa, second.2, Nat.pos_of_ne_zero hne, ?_, hsecond, by omega, by omega⟩
  rw [roundWithAccuracy, ← hdef]
  simp only [← hdef', dif_neg hne]

/-- Rounding a positive whole number in the range of times. -/
theorem round_leading {n : Nat} (hn : 1 ≤ n) (hlt : n < 2 ^ 63) :
    ∃ m e h, UnpackedFloat.round .binary64 .positive n 0 = .finite .positive m e h ∧
      Leading m ∧ -52 ≤ e ∧ e ≤ 12 := by
  have hamount : (0 - Format.binary64.targetExponent (totalExponent n 0)).toNat = 52 - n.log2 := by
    simp only [Format.targetExponent, totalExponent, Format.mantissaBits, Format.minExponent]
    omega
  have hself := Nat.log2_self_le (n := n) (by omega)
  have hnext := Nat.lt_log2_self (n := n)
  have hlong : 2 ^ 52 ≤ n * 2 ^ (52 - n.log2) ∧ n * 2 ^ (52 - n.log2) < 2 ^ 63 := by
    rcases Nat.lt_or_ge n.log2 52 with hshort | hlong
    · have hunit : 0 < 2 ^ (52 - n.log2) := Nat.two_pow_pos _
      have h₁ : 2 ^ n.log2 * 2 ^ (52 - n.log2) = 2 ^ 52 := by
        rw [← pow_add]
        congr 1
        omega
      have h₂ : 2 ^ (n.log2 + 1) * 2 ^ (52 - n.log2) = 2 ^ 53 := by
        rw [← pow_add]
        congr 1
        omega
      have h₃ := Nat.mul_le_mul_right (2 ^ (52 - n.log2)) hself
      have h₄ := Nat.mul_lt_mul_of_pos_right hnext hunit
      omega
    · have hpow : 2 ^ 52 ≤ 2 ^ n.log2 := Nat.pow_le_pow_right (by decide) hlong
      rw [show 52 - n.log2 = 0 by omega, pow_zero, mul_one]
      omega
  have hexp : -52 ≤ 0 - ((52 - n.log2 : Nat) : Int) := by omega
  obtain ⟨m, e, h, hround, hm, he⟩ := roundWithAccuracy_leading hlong.1 hlong.2 hexp (by omega)
  refine ⟨m, e, h, ?_, hm, he⟩
  rw [UnpackedFloat.round]
  simp only [decreaseExponent, hamount, Nat.shiftLeft_eq]
  exact hround

/-! ## Packing -/

theorem ofBitVec_unpackSign {spec : Format} (sign : Sign) (e : BitVec spec.exponentBits)
    (m : BitVec spec.mantissaBitsWithoutImplicit) :
    Sign.ofBitVec (unpackSign (packComponents spec sign e m)) = sign := by
  have htop : unpackSign (packComponents spec sign e m) = sign.toBitVec := by
    ext i hi
    obtain rfl : i = 0 := by omega
    simp [unpackSign, packComponents, BitVec.getLsbD_append, BitVec.getElem_append]
  rw [htop]
  cases sign <;> rfl

/-- The leading bit of a normal number is not packed, and comes back when it is unpacked. -/
theorem toNat_leading {m : Nat} (hm : Leading m) : (1#1 ++ BitVec.ofNat 52 m).toNat = m := by
  obtain ⟨hlow, hhigh⟩ := hm
  rw [BitVec.toNat_append, ← Nat.shiftLeft_add_eq_or_of_lt (BitVec.ofNat 52 m).isLt, BitVec.toNat_ofNat,
    Nat.shiftLeft_eq, BitVec.toNat_ofNat]
  omega

/-- A number of 53 bits and a small exponent comes back as it was packed. -/
theorem unpack_pack_leading (sign : Sign) {m : Nat} {e : Int} (h : 0 < m) (hm : Leading m)
    (he : -52 ≤ e ∧ e ≤ 12) :
    unpack .binary64 (pack .binary64 (.finite sign m e h)) = .finite sign m e h := by
  have hbias : (e + Format.binary64.exponentBias + Format.binary64.mantissaBitsWithoutImplicit).toNat =
      (e + 1075).toNat := by
    show (e + (1023 : Nat) + (52 : Nat)).toNat = (e + 1075).toNat
    omega
  have hbits : m.log2 + 1 = Format.binary64.mantissaBits := by
    rw [log2_of_leading hm]
    rfl
  have hfinite : ¬ 2 ^ Format.binary64.exponentBits ≤ (e + 1075).toNat + 1 := by
    rw [show 2 ^ Format.binary64.exponentBits = 2048 from rfl]
    omega
  have hvalue : (BitVec.ofNat 11 (e + 1075).toNat).toNat = (e + 1075).toNat := by
    rw [BitVec.toNat_ofNat]
    omega
  have hinf : BitVec.ofNat 11 (e + 1075).toNat ≠ -1#11 := by
    intro hall
    rw [hall] at hvalue
    have : (-1#11).toNat = 2047 := rfl
    omega
  have hsub : BitVec.ofNat 11 (e + 1075).toNat ≠ 0#11 := by
    intro hzero
    rw [hzero] at hvalue
    have : (0#11).toNat = 0 := rfl
    omega
  have hexponent : ((e + 1075).toNat : Int) - (Format.binary64.exponentBias +
      Format.binary64.mantissaBitsWithoutImplicit) = e := by
    show ((e + 1075).toNat : Int) - ((1023 : Nat) + (52 : Nat)) = e
    omega
  simp only [pack, hbias, if_neg hfinite, if_pos hbits, unpack, unpackExponent_packComponents,
    unpackMantissa_packComponents, ofBitVec_unpackSign, if_neg hinf, if_neg hsub, hvalue, hexponent,
    toNat_leading hm]

/-- **A positive whole number in the range of times is a positive double.** -/
theorem zero_lt_doubleOfInt {n : Int} (hpos : 1 ≤ n) (hlt : n < 2 ^ 63) : 0 < doubleOfInt n := by
  obtain ⟨k, rfl⟩ := Int.eq_ofNat_of_zero_le (show 0 ≤ n by omega)
  obtain ⟨m, e, h, hround, hm, he⟩ := round_leading (show 1 ≤ k by omega) (by omega)
  have hne : k ≠ 0 := by omega
  have hsign : ¬ (k : Int) < 0 := by omega
  have hrounded : (Binary.ofInt k).rounded .binary64 = .finite .positive m e h := by
    simp [Binary.ofInt, Binary.rounded, Binary.signOf, hne, hsign, hround]
  have hvalue : (doubleOfInt k).toModel.unpack = .finite .positive m e h := by
    rw [doubleOfInt, Binary.toFloat, hrounded]
    exact unpack_pack_leading .positive h hm he
  have hzero : (0 : Float).toModel.unpack = .zero .positive := by rfl
  show (0 : Float).lt (doubleOfInt k) = true
  rw [Float.lt, decide_eq_true_iff]
  show Float.Model.lt _ _ = true
  rw [Float.Model.lt, hzero, hvalue]
  rfl

end Waterfall
