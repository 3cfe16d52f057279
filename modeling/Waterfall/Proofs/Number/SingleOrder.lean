import Mathlib
import Waterfall.Number.Binary

/-!
# Singles that are compared and subtracted

A number is comparable with any number, and what is no number with nothing, not even with itself. So the
opposite of "at most" is "more, or no number" (`not_le_iff`), and it is equality with itself that tells
a number (`beq_self_eq_true_iff`). Of two singles the larger one is a number if one of them is (`IsLarger`).

A difference is no number if one of its terms is none, or if both are the same infinity
(`isNaN_sub_iff`). Rounding never makes a number into none, nor does packing it into the bits of the
format.
-/

namespace Waterfall

open Float.Model (UnpackedFloat Format)
open Float.Model.UnpackedFloat

/-! ## Comparing -/

/-- Comparing the other way round turns the answer round. -/
theorem compare_swap (u v : UnpackedFloat) :
    UnpackedFloat.compare v u = (UnpackedFloat.compare u v).map Ordering.swap := by
  have hsign : ∀ s t : Sign, compare t s = (compare s t).swap := by
    intro s t
    cases s <;> cases t <;> rfl
  have hvalue : ∀ (e f : Int) (m n : Nat),
      (compare f e).then (compare n m) = ((compare e f).then (compare m n)).swap := by
    intro e f m n
    rw [Ordering.swap_then, Int.compare_swap, Nat.compare_swap]
  cases u with
  | notANumber => cases v <;> rfl
  | infinity s =>
    cases v with
    | infinity t => exact congrArg some (hsign s t)
    | _ => cases s <;> rfl
  | zero s =>
    cases v with
    | infinity t => cases t <;> rfl
    | finite t n f hn => cases t <;> rfl
    | _ => rfl
  | finite s m e hm =>
    cases v with
    | notANumber => rfl
    | infinity t => cases t <;> rfl
    | zero t => cases s <;> rfl
    | finite t n f hn =>
      cases s <;> cases t
      · exact congrArg some (congrArg Ordering.swap (hvalue e f m n))
      · rfl
      · rfl
      · exact congrArg some (hvalue e f m n)

/-- Nothing is comparable with what is no number, and everything else is. -/
theorem compare_eq_none_iff (u v : UnpackedFloat) :
    UnpackedFloat.compare u v = none ↔ u.isNaN ∨ v.isNaN := by
  unfold UnpackedFloat.compare UnpackedFloat.isNaN
  split <;> simp_all

namespace Single

/-- A single equals itself exactly if it is a number. -/
theorem beq_self_eq_true_iff {x : Float32} : (x == x) = true ↔ x.isNaN = false := by
  rw [Float32.beq_self_iff, Float32.isNaN_eq_decide_eq_nan, decide_eq_false_iff_not]

theorem isNaN_of_lt {x y : Float32} (h : x < y) : x.isNaN = false ∧ y.isNaN = false := by
  have hsome : UnpackedFloat.compare x.toModel.unpack y.toModel.unpack = some .lt :=
    beq_iff_eq.mp (decide_eq_true_iff.mp h)
  have hnumbers : ¬ (x.isNaN ∨ y.isNaN) := fun hnan => by
    rw [(compare_eq_none_iff x.toModel.unpack y.toModel.unpack).mpr hnan] at hsome
    cases hsome
  simpa using hnumbers

theorem not_lt_of_isNaN {x y : Float32} (h : x.isNaN ∨ y.isNaN) : ¬ x < y := by
  intro hlt
  obtain ⟨hx, hy⟩ := isNaN_of_lt hlt
  rcases h with hnan | hnan
  · exact Bool.false_ne_true (hx.symm.trans hnan)
  · exact Bool.false_ne_true (hy.symm.trans hnan)

theorem lt_asymm {x y : Float32} (h : x < y) : ¬ y < x := by
  intro hback
  have hless : UnpackedFloat.compare x.toModel.unpack y.toModel.unpack = some .lt :=
    beq_iff_eq.mp (decide_eq_true_iff.mp h)
  have hmore : UnpackedFloat.compare y.toModel.unpack x.toModel.unpack = some .lt :=
    beq_iff_eq.mp (decide_eq_true_iff.mp hback)
  rw [compare_swap x.toModel.unpack y.toModel.unpack, hless] at hmore
  cases hmore

theorem lt_irrefl (x : Float32) : ¬ x < x := fun h => lt_asymm h h

/-- What is not at most a bound is more than it, or one of the two is no number. -/
theorem not_le_iff {x y : Float32} : ¬ x ≤ y ↔ y < x ∨ x.isNaN ∨ y.isNaN := by
  have hle : x ≤ y ↔ (UnpackedFloat.compare x.toModel.unpack y.toModel.unpack).any (·.isLE) = true :=
    decide_eq_true_iff
  have hlt : y < x ↔ (UnpackedFloat.compare y.toModel.unpack x.toModel.unpack == some .lt) = true :=
    decide_eq_true_iff
  have hnan : UnpackedFloat.compare x.toModel.unpack y.toModel.unpack = none ↔ x.isNaN ∨ y.isNaN :=
    compare_eq_none_iff ..
  rw [hle, hlt, ← hnan, compare_swap x.toModel.unpack y.toModel.unpack]
  cases UnpackedFloat.compare x.toModel.unpack y.toModel.unpack with
  | none => simp
  | some o => cases o <;> simp

/-- The larger of two singles, as far as it is determined: it is one of them and not less than either, and
it is a number if one of them is. Of zeros with different signs it may be either. -/
structure IsLarger (x y larger : Float32) : Prop where
  either : larger = x ∨ larger = y
  notLess : ¬ larger < x ∧ ¬ larger < y
  number : larger.isNaN → x.isNaN ∧ y.isNaN

theorem isLarger_larger (x y : Float32) : IsLarger x y (larger x y) := by
  unfold larger
  split_ifs with hx hy hless hmore hzero
  -- One of them is no number, and the other one is taken.
  · exact ⟨.inr rfl, ⟨not_lt_of_isNaN (.inr hx), lt_irrefl y⟩, fun hy => ⟨hx, hy⟩⟩
  · exact ⟨.inl rfl, ⟨lt_irrefl x, not_lt_of_isNaN (.inr hy)⟩, fun hx' => absurd hx' hx⟩
  -- One of them is more.
  · exact ⟨.inr rfl, ⟨lt_asymm hless, lt_irrefl y⟩, fun hy' => absurd hy' hy⟩
  · exact ⟨.inl rfl, ⟨lt_irrefl x, lt_asymm hmore⟩, fun hx' => absurd hx' hx⟩
  -- They are equal.
  · exact ⟨.inr rfl, ⟨hmore, lt_irrefl y⟩, fun hy' => absurd hy' hy⟩
  · exact ⟨.inl rfl, ⟨lt_irrefl x, hless⟩, fun hx' => absurd hx' hx⟩

end Single

/-! ## Subtracting -/

/-- What is packed is a number if it was one. -/
theorem isNaN_unpack_pack (u : UnpackedFloat) :
    (unpack .binary32 (pack .binary32 u)).isNaN = u.isNaN := by
  have hcomponents : ∀ (s : Sign) (e : BitVec 8) (m : BitVec 23), e ≠ -1#8 →
      (unpack .binary32 (packComponents .binary32 s e m)).isNaN = false := by
    intro s e m he
    simp only [unpack, unpackExponent_packComponents, unpackMantissa_packComponents, if_neg he]
    split
    · split <;> rfl
    · rfl
  have hinfinity : ∀ s : Sign, (unpack .binary32 (packedInfinity .binary32 s)).isNaN = false := by
    intro s
    cases s <;> rfl
  cases u with
  | notANumber => rfl
  | infinity s => exact hinfinity s
  | zero s => exact hcomponents s 0 0 (by decide)
  | finite s m e hm =>
    simp only [pack]
    split
    · exact hinfinity s
    · next hfits =>
      split
      · -- The field of all ones is that of infinity, and smaller exponents do not reach it.
        refine hcomponents s _ _ fun heq => hfits ?_
        have hvalue := congrArg BitVec.toNat heq
        rw [BitVec.toNat_ofNat] at hvalue
        have hones : (-1#8).toNat = 255 := rfl
        have := Nat.mod_le
          (e + Format.binary32.exponentBias + Format.binary32.mantissaBitsWithoutImplicit).toNat (2 ^ 8)
        show 256 ≤ _
        omega
      · exact hcomponents s _ _ (by decide)

theorem isNaN_normalize (spec : Format) (m e : Int) (s : Sign) :
    (UnpackedFloat.normalize spec m e s).isNaN = false := by
  have hround : ∀ (t : Sign) (n : Nat), (UnpackedFloat.round spec t n e).isNaN = false := by
    intro t n
    simp only [UnpackedFloat.round, roundWithAccuracy]
    split <;> rfl
  unfold UnpackedFloat.normalize
  split
  · exact hround _ _
  · rfl
  · exact hround _ _

namespace Single

/-- A difference is no number exactly if one of its terms is none or both are the same infinity. -/
theorem isNaN_sub_iff {x y : Float32} :
    (x - y).isNaN ↔ x.isNaN ∨ y.isNaN ∨ (x.isInf ∧ x == y) := by
  show (unpack .binary32 (pack .binary32
      (UnpackedFloat.sub .binary32 x.toModel.unpack y.toModel.unpack))).isNaN ↔
    x.toModel.unpack.isNaN ∨ y.toModel.unpack.isNaN ∨
      (x.toModel.unpack.isInf ∧ (UnpackedFloat.compare x.toModel.unpack y.toModel.unpack == some .eq) = true)
  rw [isNaN_unpack_pack]
  generalize x.toModel.unpack = u
  generalize y.toModel.unpack = v
  cases u with
  | notANumber => simp [UnpackedFloat.sub, UnpackedFloat.isNaN]
  | infinity s =>
    cases v with
    | infinity t => cases s <;> cases t <;> decide
    | _ =>
      cases s <;>
        simp [UnpackedFloat.sub, UnpackedFloat.isNaN, UnpackedFloat.isInf, UnpackedFloat.compare]
  | zero s =>
    cases v with
    | zero t => cases s <;> cases t <;> decide
    | _ => simp [UnpackedFloat.sub, UnpackedFloat.isNaN, UnpackedFloat.isInf]
  | finite s m e hm =>
    cases v with
    | finite t n f hn =>
      have hnumber : (UnpackedFloat.sub .binary32 (.finite s m e hm) (.finite t n f hn)).isNaN = false :=
        isNaN_normalize ..
      rw [hnumber]
      simp [UnpackedFloat.isNaN, UnpackedFloat.isInf]
    | _ => simp [UnpackedFloat.sub, UnpackedFloat.isNaN, UnpackedFloat.isInf]

end Single

end Waterfall
