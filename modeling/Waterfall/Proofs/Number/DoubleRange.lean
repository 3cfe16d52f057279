import Waterfall.Number.Decade
import Waterfall.Proofs.Number.WholeDouble

/-!
# Doubles that stay finite

How large a double is shows in its exponent, which rounding to 53 bits raises by one at most. A whole
number is as large as it is long (`atMost_doubleOfInt`), a product as its factors together
(`atMost_mul`). What stays well below the end of the format is not infinite, and what stays below the
exponent of one is not more than one.
-/

namespace Waterfall

open Float.Model (Format totalExponent UnpackedFloat)
open Float.Model.UnpackedFloat

/-- Zero, or a number with at most that exponent. -/
def AtMost (k : Int) : UnpackedFloat → Prop
  | .zero _ => True
  | .finite _ _ e _ => e ≤ k
  | _ => False

/-! ## Rounding -/

theorem snd_shiftToTargetExponent (m : Nat) (e : Int) :
    (shiftToTargetExponent .binary64 m e .exact).2 = max e (max (m.log2 + e - 52) (-1074)) := by
  simp only [shiftToTargetExponent, shiftToExponent, Format.targetExponent, totalExponent,
    Format.mantissaBits, Format.minExponent]
  norm_num
  omega

/-- What is left of a mantissa has 53 bits at most. -/
theorem mantissa_shiftToTargetExponent_lt (m : Nat) (e : Int) :
    (shiftToTargetExponent .binary64 m e .exact).1.mantissa < 2 ^ 53 := by
  have hamount : m.log2 + 1 ≤ 53 + (Format.binary64.targetExponent (totalExponent m e) - e).toNat := by
    simp only [Format.targetExponent, totalExponent, Format.mantissaBits, Format.minExponent]
    norm_num
    omega
  simp only [shiftToTargetExponent, shiftToExponent, mantissa_shiftRight]
  show m / _ < 2 ^ 53
  rw [Nat.div_lt_iff_lt_mul (Nat.two_pow_pos _), ← pow_add]
  exact Nat.lt_log2_self.trans_le (Nat.pow_le_pow_right (by decide) hamount)

/-- Rounding leaves no more than 53 bits above the exponent, but for a carry. -/
theorem atMost_roundWithAccuracy (s : Sign) {m : Nat} {e k : Int} (he : e < k) (hm : m.log2 + e < k + 52)
    (hk : -1074 < k) : AtMost k (roundWithAccuracy .binary64 s m e .exact) := by
  have hfirst := snd_shiftToTargetExponent m e
  have hshort := mantissa_shiftToTargetExponent_lt m e
  have hcarry := (roundedMantissa_bounds (shiftToTargetExponent .binary64 m e .exact).1).2
  rw [roundWithAccuracy]
  generalize shiftToTargetExponent .binary64 m e .exact = first at *
  have hlog : first.1.roundedMantissa.log2 ≤ 53 := by
    by_cases hzero : first.1.roundedMantissa = 0
    · simp [hzero]
    · exact Nat.le_of_lt_succ ((Nat.log2_lt hzero).mpr (by omega))
  have hsecond := snd_shiftToTargetExponent first.1.roundedMantissa first.2
  simp only
  split
  · trivial
  · show (shiftToTargetExponent .binary64 first.1.roundedMantissa first.2 .exact).2 ≤ k
    omega

theorem log2_mul_two_pow_le (n k : Nat) : (n * 2 ^ k).log2 ≤ n.log2 + k := by
  by_cases hzero : n = 0
  · simp [hzero]
  · have hpos : n * 2 ^ k ≠ 0 := Nat.mul_ne_zero hzero (Nat.two_pow_pos k).ne'
    have hlt : n * 2 ^ k < 2 ^ (n.log2 + 1 + k) := by
      rw [pow_add]
      exact Nat.mul_lt_mul_of_pos_right Nat.lt_log2_self (Nat.two_pow_pos k)
    have := (Nat.log2_lt hpos).mpr hlt
    omega

theorem atMost_round (s : Sign) {n : Nat} {k : Int} (hn : n.log2 < k + 52) (hk : 0 < k) :
    AtMost k (UnpackedFloat.round .binary64 s n 0) := by
  rw [UnpackedFloat.round]
  simp only [decreaseExponent, Nat.shiftLeft_eq]
  -- The mantissa grows by as many bits as the exponent falls.
  generalize (0 - Format.binary64.targetExponent (totalExponent n 0)).toNat = shift
  have hlog := log2_mul_two_pow_le n shift
  exact atMost_roundWithAccuracy s (by omega) (by omega) (by omega)

/-! ## Packing -/

/-- What is unpacked from fields has the exponent of its field, or the least one. -/
theorem atMost_unpack_packComponents (s : Sign) {e : BitVec 11} (m : BitVec 52) {k : Int}
    (he : e.toNat < 2047) (hk : e.toNat - 1075 ≤ k) (hlow : -1074 ≤ k) :
    AtMost k (unpack .binary64 (packComponents .binary64 s e m)) := by
  have hinf : e ≠ -1#11 := by
    rintro rfl
    exact absurd he (by decide)
  have hbias : ((Format.binary64.exponentBias : Int) + Format.binary64.mantissaBitsWithoutImplicit) = 1075 :=
    rfl
  simp only [unpack, unpackExponent_packComponents, unpackMantissa_packComponents, if_neg hinf, hbias]
  split
  · next hzero =>
    subst hzero
    split
    · trivial
    · exact hlow
  · exact hk

/-- A number far from the end of the format is packed as one, with the same bound on its exponent. -/
theorem atMost_unpack_pack {u : UnpackedFloat} {k : Int} (h : AtMost k u) (hlow : -1074 ≤ k)
    (hhigh : k < 971) : AtMost k (unpack .binary64 (pack .binary64 u)) := by
  cases u with
  | notANumber => exact h.elim
  | infinity s => exact h.elim
  | zero s => cases s <;> trivial
  | finite s m e hm =>
    have he : e ≤ k := h
    have hbias : (e + Format.binary64.exponentBias + Format.binary64.mantissaBitsWithoutImplicit).toNat =
        (e + 1075).toNat := by
      show (e + (1023 : Nat) + (52 : Nat)).toNat = (e + 1075).toNat
      omega
    have hfinite : ¬ 2 ^ Format.binary64.exponentBits ≤ (e + 1075).toNat + 1 := by
      rw [show 2 ^ Format.binary64.exponentBits = 2048 from rfl]
      omega
    have hvalue : (BitVec.ofNat 11 (e + 1075).toNat).toNat = (e + 1075).toNat := by
      rw [BitVec.toNat_ofNat]
      omega
    simp only [pack, hbias, if_neg hfinite]
    split
    · exact atMost_unpack_packComponents s _ (by rw [hvalue]; omega) (by rw [hvalue]; omega) hlow
    · exact atMost_unpack_packComponents s _ (by decide) (by simp; omega) hlow

/-! ## Whole numbers and products -/

/-- The double of a whole number has an exponent for the bits beyond its mantissa. -/
theorem atMost_doubleOfInt {n : Nat} {k : Nat} (hn : n < 2 ^ (k + 52)) (hk : 0 < k) (hhigh : k < 971) :
    AtMost k (doubleOfInt n).toModel.unpack := by
  have hlow : (-1074 : Int) ≤ k := by omega
  refine atMost_unpack_pack ?_ hlow (by omega)
  have hsign : ¬ (n : Int) < 0 := by omega
  by_cases hzero : n = 0
  · subst hzero
    trivial
  · have hrounded : (Binary.ofInt n).rounded .binary64 = UnpackedFloat.round .binary64 .positive n 0 := by
      simp [Binary.ofInt, Binary.rounded, Binary.signOf, hzero, hsign]
    have hlog : n.log2 < k + 52 := (Nat.log2_lt hzero).mpr hn
    rw [hrounded]
    exact atMost_round .positive (by omega) (by omega)

/-- The mantissa of what is unpacked has the bits of its format. -/
theorem mantissa_unpack_lt {spec : Format} {b : BitVec spec.numBits} {s : Sign} {m : Nat} {e : Int}
    {h : 0 < m} (hb : unpack spec b = .finite s m e h) : m < 2 ^ (1 + spec.mantissaBitsWithoutImplicit) := by
  simp only [unpack] at hb
  split at hb
  · split at hb <;> cases hb
  · split at hb
    · split at hb
      · cases hb
      · injection hb with _ hm
        rw [← hm]
        exact (unpackMantissa b).isLt.trans_le (Nat.pow_le_pow_right (by decide) (by omega))
    · injection hb with _ hm
      rw [← hm]
      exact (1#1 ++ unpackMantissa b).isLt

/-- A product is as large as its factors together. -/
theorem atMost_mul {x y : Float} {j k : Int} (hx : AtMost j x.toModel.unpack) (hy : AtMost k y.toModel.unpack)
    (hlow : -1074 ≤ j + k) (hhigh : j + k < 917) : AtMost (j + k + 54) (x * y).toModel.unpack := by
  show AtMost _ (unpack .binary64 (pack .binary64
    (UnpackedFloat.mul .binary64 x.toModel.unpack y.toModel.unpack)))
  refine atMost_unpack_pack ?_ (by omega) (by omega)
  cases hu : x.toModel.unpack with
  | notANumber => exact (hu ▸ hx).elim
  | infinity _ => exact (hu ▸ hx).elim
  | zero s =>
    cases hv : y.toModel.unpack with
    | notANumber => exact (hv ▸ hy).elim
    | infinity _ => exact (hv ▸ hy).elim
    | zero _ => trivial
    | finite _ _ _ _ => trivial
  | finite s m e h =>
    cases hv : y.toModel.unpack with
    | notANumber => exact (hv ▸ hy).elim
    | infinity _ => exact (hv ▸ hy).elim
    | zero _ => trivial
    | finite s' m' e' h' =>
      rw [hu] at hx
      rw [hv] at hy
      have hj : e ≤ j := hx
      have hk : e' ≤ k := hy
      have hlong : m * m' < 2 ^ 106 := by
        rw [show (2 : Nat) ^ 106 = 2 ^ 53 * 2 ^ 53 by rw [← pow_add]]
        exact Nat.mul_lt_mul_of_lt_of_lt (mantissa_unpack_lt hu) (mantissa_unpack_lt hv)
      have hlog : (m * m').log2 < 106 := (Nat.log2_lt (Nat.mul_pos h h').ne').mpr hlong
      exact atMost_roundWithAccuracy (s * s') (by omega) (by omega) (by omega)

/-- What has a bound on its exponent is not infinite. -/
theorem isInf_of_atMost {x : Float} {k : Int} (h : AtMost k x.toModel.unpack) : x.isInf = false := by
  show x.toModel.unpack.isInf = false
  cases hu : x.toModel.unpack with
  | notANumber => rfl
  | infinity _ => exact (hu ▸ h).elim
  | zero _ => rfl
  | finite _ _ _ _ => rfl

/-- What has an exponent below that of one is not more than one. -/
theorem not_one_lt_of_atMost {x : Float} {k : Int} (h : AtMost k x.toModel.unpack) (hk : k < -52) :
    ¬ doubleOfInt 1 < x := by
  intro hlt
  have hless : UnpackedFloat.compare (doubleOfInt 1).toModel.unpack x.toModel.unpack = some .lt :=
    beq_iff_eq.mp (decide_eq_true_iff.mp hlt)
  have hone : (doubleOfInt 1).toModel.unpack = .finite .positive (2 ^ 52) (-52) (by decide) := rfl
  rw [hone] at hless
  cases hu : x.toModel.unpack with
  | notANumber => exact (hu ▸ h).elim
  | infinity _ => exact (hu ▸ h).elim
  | zero _ =>
    rw [hu] at hless
    cases hless
  | finite s m e hm =>
    rw [hu] at h hless
    cases s with
    | negative => cases hless
    | positive =>
      have he : e ≤ k := h
      have hgreater : compare (-52 : Int) e = .gt := Int.compare_eq_gt.mpr (by omega)
      have hcompare : UnpackedFloat.compare (.finite .positive (2 ^ 52) (-52) (by decide))
          (.finite .positive m e hm) = some ((compare (-52 : Int) e).then (compare (2 ^ 52) m)) := rfl
      rw [hcompare, hgreater] at hless
      cases hless

end Waterfall
