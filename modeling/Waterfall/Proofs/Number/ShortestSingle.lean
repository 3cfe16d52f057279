import Waterfall.Proofs.Number.DoubleRange
import Waterfall.Proofs.Number.ShortestWhole

/-!
# Shortest decimals of singles

How large the digits and the exponent of the shortest decimal of a single can get
(`ofMantissa_single_bounds`). The bounds are rough; what matters is that they are far from those of a
reader, and that the search finds digits wherever the decimal is a whole number.
-/

namespace Waterfall

open Float.Model (Format UnpackedFloat)
open Float.Model.UnpackedFloat

/-! ## Singles -/

/-- The mantissa and the exponent of a single. -/
structure FitsSingle (m : Nat) (e : Int) : Prop where
  mantissa : m < 2 ^ 24
  least : -149 ≤ e
  most : e ≤ 104

theorem fitsSingle_unpack {b : BitVec Format.binary32.numBits} {s : Sign} {m : Nat} {e : Int} {h : 0 < m}
    (hb : unpack .binary32 b = .finite s m e h) : FitsSingle m e := by
  have hm := mantissa_unpack_lt hb
  have hbias : ((Format.binary32.exponentBias : Int) + Format.binary32.mantissaBitsWithoutImplicit) = 150 :=
    rfl
  have hlt : (unpackExponent b).toNat < 256 := (unpackExponent b).isLt
  simp only [unpack, hbias] at hb
  split at hb
  · split at hb <;> cases hb
  · next hinf =>
    have hmost : (unpackExponent b).toNat ≠ 255 := fun h255 => hinf (BitVec.eq_of_toNat_eq h255)
    split at hb
    · next hzero =>
      have : (unpackExponent b).toNat = 0 := by rw [hzero]; rfl
      split at hb
      · cases hb
      · injection hb with _ _ he
        exact ⟨hm, by omega, by omega⟩
    · next hzero =>
      have : (unpackExponent b).toNat ≠ 0 := fun h0 => hzero (BitVec.eq_of_toNat_eq h0)
      injection hb with _ _ he
      exact ⟨hm, by omega, by omega⟩

theorem fitsSingle_ofFloat32 {x : Float32} {s : Bool} {m : Nat} {e : Int}
    (h : Binary.ofFloat32 x = .finite s m e) : FitsSingle m e := by
  unfold Binary.ofFloat32 Binary.ofUnpacked at h
  split at h
  · cases h
  · cases h
  · cases h
  · injection h with _ hm he
    exact ⟨by omega, by omega, by omega⟩
  · injection h with _ hm he
    exact ⟨by omega, by omega, by omega⟩
  · next hu =>
    injection h with _ hm he
    exact hm ▸ he ▸ fitsSingle_unpack hu
  · next hu =>
    injection h with _ hm he
    exact hm ▸ he ▸ fitsSingle_unpack hu

namespace Shortest

/-! ## The search -/

section Search

variable {value lo hi : Nat} {e : Int}

/-- On every grid the number and its ends are multiplied by the same number. -/
theorem exists_scaled_eq_mul (value lo hi : Nat) (e k : Int) :
    ∃ den, scaled value lo hi e k = (value * (twoTo (e - 2).toNat * tenTo (-k).toNat), den,
      lo * (twoTo (e - 2).toNat * tenTo (-k).toNat), hi * (twoTo (e - 2).toNat * tenTo (-k).toNat)) := by
  have hpow : (quotient 1 (e - 2)).1 = twoTo (e - 2).toNat := by
    unfold quotient
    split_ifs with he
    · exact Nat.one_mul _
    · rw [show (e - 2).toNat = 0 by omega]
      rfl
  unfold scaled
  split_ifs with hk
  · refine ⟨(quotient 1 (e - 2)).2 * tenTo k.toNat, ?_⟩
    have hwhole : tenTo (-k).toNat = 1 := by rw [show (-k).toNat = 0 by omega]; rfl
    simp only [hpow, hwhole, Nat.mul_one]
  · simp only [hpow, Nat.mul_assoc]
    exact ⟨_, rfl⟩

/-- What is found is a neighbour of the number on the grid, and not zero, which is below the interval. -/
theorem onGrid_bounds {num den lo hi d : Nat} {closed : Bool} {tie : Tie} (hlo : 0 < lo)
    (h : onGrid num den lo hi closed tie = some d) : d ≠ 0 ∧ d ≤ num + 1 := by
  have hdiv := Nat.div_le_self num den
  rcases onGrid_cases num den lo hi closed tie with ⟨hnone, -⟩ | ⟨hsome, hreach⟩ | ⟨hsome, -⟩
  · cases hnone.symm.trans h
  · obtain rfl := Option.some.inj (hsome.symm.trans h)
    refine ⟨?_, by omega⟩
    intro hzero
    have := le_of_reaches hreach
    rw [hzero, Nat.zero_mul] at this
    omega
  · obtain rfl := Option.some.inj (hsome.symm.trans h)
    exact ⟨Nat.succ_ne_zero _, Nat.succ_le_succ hdiv⟩

/-- Where a search from the grid `10^k` can end that tries so many grids: with no more digits than there
can be, and with zero only behind the last grid. -/
structure EndsWithin (most fuel : Nat) (k : Int) (d : Decimal) : Prop where
  finest : k - fuel ≤ d.exponent
  coarsest : d.exponent ≤ k
  digits : d.digits ≤ most
  zero : d.digits = 0 → d.exponent = k - fuel

theorem endsWithin_search (closed : Bool) (tie : Tie) (hlo : 0 < lo) {fuel : Nat} {k : Int} {places : Nat}
    (hplaces : fuel - k ≤ places) :
    EndsWithin (value * (twoTo (e - 2).toNat * tenTo places) + 1) fuel k
      (search value lo hi e closed tie fuel k) := by
  induction fuel generalizing k with
  | zero => exact ⟨by simp [search], by simp [search], by simp [search], by simp [search]⟩
  | succ fuel ih =>
    obtain ⟨den, hscaled⟩ := exists_scaled_eq_mul value lo hi e k
    have hunit := Nat.mul_pos (twoTo_pos (e - 2).toNat) (tenTo_pos (-k).toNat)
    simp only [search, hscaled]
    split
    · next d hfound =>
      obtain ⟨hd, hle⟩ := onGrid_bounds (Nat.mul_pos hlo hunit) hfound
      -- No grid up to the last has more places behind the point than these.
      have hfine : tenTo (-k).toNat ≤ tenTo places := Nat.pow_le_pow_right (by decide) (by omega)
      have hgrid := Nat.mul_le_mul_left value (Nat.mul_le_mul_left (twoTo (e - 2).toNat) hfine)
      exact ⟨by simp only; omega, Int.le_refl k, hle.trans (Nat.succ_le_succ hgrid), fun h => absurd h hd⟩
    · have hlater := ih (k := k - 1) (by omega)
      exact ⟨by have := hlater.finest; omega, by have := hlater.coarsest; omega, hlater.digits,
        fun h => by rw [hlater.zero h]; omega⟩

end Search

/-! ## The decimal of a single -/

section Single

variable {m : Nat} {e : Int}

theorem quotient_lt (h : FitsSingle m e) :
    (quotient m e).1 < tenTo 39 ∧ (quotient m e).2 < tenTo 45 ∧ (e < 2 → (quotient m e).1 < tenTo 8) := by
  obtain ⟨hm, hleast, hmost⟩ := h
  have hup : ∀ k : Int, e ≤ k → m * twoTo e.toNat < 2 ^ 24 * twoTo k.toNat := by
    intro k hk
    have hpow : twoTo e.toNat ≤ twoTo k.toNat := Nat.pow_le_pow_right (by decide) (by omega)
    exact (Nat.mul_lt_mul_of_pos_right hm (twoTo_pos _)).trans_le (Nat.mul_le_mul_left _ hpow)
  have hdown : twoTo (-e).toNat ≤ twoTo 149 := Nat.pow_le_pow_right (by decide) (by omega)
  unfold quotient
  split_ifs with he
  · refine ⟨(hup 104 hmost).trans_le (by decide), show 1 < tenTo 45 by decide, fun hsmall => ?_⟩
    exact (hup 1 (by omega)).trans_le (by decide)
  · exact ⟨hm.trans_le (by decide), hdown.trans_lt (by decide), fun _ => hm.trans_le (by decide)⟩

theorem magnitude_bounds (h : FitsSingle m e) :
    -45 ≤ magnitude (quotient m e).1 (quotient m e).2 ∧
    magnitude (quotient m e).1 (quotient m e).2 ≤ 38 ∧
    (e < 2 → magnitude (quotient m e).1 (quotient m e).2 < 18) := by
  obtain ⟨hnum, hden, hsmall⟩ := quotient_lt h
  generalize (quotient m e).1 = num at *
  generalize (quotient m e).2 = den at *
  unfold magnitude
  split_ifs with hle
  · have hdiv := Nat.div_le_self num den
    have hcount := Digits.count_le (k := 38) (hdiv.trans_lt hnum)
    refine ⟨by omega, by omega, fun he => ?_⟩
    have hcount := Digits.count_le (k := 7) (hdiv.trans_lt (hsmall he))
    omega
  · have hdiv := Nat.div_le_self (den - 1) num
    have hcount := Digits.count_le (k := 44) (hdiv.trans_lt (show den - 1 < tenTo 45 by omega))
    exact ⟨by omega, by omega, fun _ => by omega⟩

theorem trim_zero (fuel : Nat) (j : Int) : trim fuel ⟨0, j⟩ = ⟨0, j⟩ := by
  cases fuel <;> simp [trim]

/-- Trimming keeps the place of the leading digit. -/
theorem count_trim (fuel : Nat) {d : Decimal} (hd : d.digits ≠ 0) :
    (trim fuel d).digits ≠ 0 ∧ d.exponent ≤ (trim fuel d).exponent ∧
    (trim fuel d).exponent + Digits.count (trim fuel d).digits = d.exponent + Digits.count d.digits := by
  obtain ⟨d', i, htrim, hvalue⟩ := trim_spec fuel d.digits d.exponent
  have hd' : d' ≠ 0 := by
    rintro rfl
    omega
  have hcount : Digits.count d.digits = Digits.count d' + i := by
    rw [← hvalue, Digits.count, Digits.ofNat_mul_tenTo hd', List.length_append, List.length_replicate,
      Digits.count]
  rw [htrim]
  exact ⟨hd', by simp only; omega, by simp only; omega⟩

/-- The digits and the exponent of a decimal are moderate, and zero stands behind the point only. -/
structure Moderate (d : Decimal) : Prop where
  exponent : -63 ≤ d.exponent
  lead : d.exponent + Digits.count d.digits ≤ 141
  zero : d.digits = 0 → d.exponent < 0

/-- A single of eighteen digits before the point has neighbours that are far enough apart for the search. -/
theorem ofMantissa_ne_zero (tie : Tie) (hm : 0 < m) (h : FitsSingle m e)
    (hlarge : 18 ≤ magnitude (quotient m e).1 (quotient m e).2) : (ofMantissa .single tie m e).digits ≠ 0 := by
  have he : 2 ≤ e := by
    by_contra hsmall
    have := (magnitude_bounds h).2.2 (by omega)
    omega
  have hvalue : 0 < m * twoTo e.toNat := Nat.mul_pos hm (twoTo_pos _)
  have hquotient : quotient m e = (m * twoTo e.toNat, 1) := by
    rw [quotient, if_pos (by omega)]
  rw [hquotient, magnitude_one hvalue] at hlarge
  obtain ⟨g, hg⟩ : ∃ g, Digits.count (m * twoTo e.toNat) = g + 18 :=
    ⟨Digits.count (m * twoTo e.toNat) - 18, by omega⟩
  have hmost : m * twoTo e.toNat < tenTo (g + 18) := Digits.lt_tenTo hg.le
  have hleast : tenTo (g + 17) ≤ m * twoTo e.toNat := Digits.tenTo_le (by omega)
  have hunit : m * twoTo e.toNat = m * 4 * twoTo (e - 2).toNat := by
    have hpow : twoTo (2 + (e - 2).toNat) = 4 * twoTo (e - 2).toNat := Nat.pow_add 2 2 _
    rw [show e.toNat = 2 + (e - 2).toNat by omega, hpow, Nat.mul_assoc]
  -- A single has 24 bits, so seventeen digits fewer are a small part of its last place.
  have hfine : tenTo g < 3 * twoTo (e - 2).toNat := by
    have hpos := twoTo_pos (e - 2).toNat
    have hm' := Nat.mul_le_mul_right (twoTo (e - 2).toNat) (Nat.mul_le_mul_right 4 h.mantissa.le)
    rw [tenTo_add, hunit, show tenTo 17 = 100000000000000000 from rfl] at hleast
    omega
  have hfirst : tenTo g ≤ m * twoTo e.toNat :=
    (Nat.pow_le_pow_right (by decide) (show g ≤ g + 17 by omega)).trans hleast
  obtain ⟨d, j, hmantissa, hd, -⟩ := exists_ofMantissa_eq .single tie hm he hfine hfirst hmost
  rw [hmantissa]
  exact hd

/-- **The shortest decimal of a single is moderate.** -/
theorem moderate_ofMantissa (tie : Tie) (hm : 0 < m) (h : FitsSingle m e) :
    Moderate (ofMantissa .single tie m e) := by
  obtain ⟨lo, hinterval, hlow, -⟩ := exists_interval_eq hm .single e
  obtain ⟨hleast, hmost, -⟩ := magnitude_bounds h
  have hlarge := ofMantissa_ne_zero tie hm h
  have hends : EndsWithin (4 * m * (twoTo (e - 2).toNat * tenTo 63) + 1) 18
      (magnitude (quotient m e).1 (quotient m e).2)
      (search (4 * m) lo (4 * m + 2) e (m % 2 = 0) tie 18 (magnitude (quotient m e).1 (quotient m e).2)) :=
    endsWithin_search _ tie (by omega) (by omega)
  have htext : ofMantissa .single tie m e = trim 18 (search (4 * m) lo (4 * m + 2) e (m % 2 = 0) tie 18
      (magnitude (quotient m e).1 (quotient m e).2)) := by
    simp only [ofMantissa, hinterval]
  rw [htext] at hlarge ⊢
  generalize magnitude (quotient m e).1 (quotient m e).2 = k at *
  generalize search (4 * m) lo (4 * m + 2) e (m % 2 = 0) tie 18 k = d at *
  have hfinest := hends.finest
  have hcoarsest := hends.coarsest
  by_cases hd : d.digits = 0
  · obtain ⟨digits, exponent⟩ := d
    -- All grids are used up, which takes the exponent below zero unless the search began too far up for it.
    obtain rfl : digits = 0 := hd
    have hzero := hends.zero rfl
    rw [trim_zero] at hlarge ⊢
    have hk : ¬ 18 ≤ k := fun hk => hlarge hk rfl
    have hcount : Digits.count 0 = 1 := by
      unfold Digits.count Digits.ofNat
      rfl
    simp only at hzero hcoarsest
    exact ⟨by simp only; omega, by simp only [hcount]; omega, fun _ => by simp only; omega⟩
  · obtain ⟨hne, hexponent, hlead⟩ := count_trim 18 hd
    -- Trimming keeps the place of the leading digit, so the digits of the search itself can be counted.
    have hdigits : d.digits < tenTo 103 := by
      have hpow : twoTo (e - 2).toNat ≤ twoTo 102 :=
        Nat.pow_le_pow_right (by decide) (by have := h.most; omega)
      have hvalue : 4 * m * (twoTo (e - 2).toNat * tenTo 63) ≤ 4 * 2 ^ 24 * (twoTo 102 * tenTo 63) :=
        Nat.mul_le_mul (Nat.mul_le_mul_left 4 h.mantissa.le) (Nat.mul_le_mul_right _ hpow)
      exact (hends.digits.trans (Nat.succ_le_succ hvalue)).trans_lt (by decide)
    have hcount := Digits.count_le hdigits
    exact ⟨by omega, by omega, fun hzero => absurd hzero hne⟩

end Single

end Shortest

end Waterfall
