import Mathlib.Algebra.Order.Floor.Semiring
import Mathlib.Data.Rat.Floor
import Mathlib.Tactic.Linarith
import Mathlib.Tactic.NormNum
import Mathlib.Tactic.Positivity
import Waterfall.Layout.Tick
import Waterfall.Proofs.Number.DoubleRange
import Waterfall.Proofs.Number.ShortestWhole

/-!
# Where the ticks end

Ticks are listed until a multiple of the step lies beyond the axis. The multiples are counted in 32 bits,
and the number of ticks that is wanted is a setting of up to 64, so it may take more multiples than can be
counted. When it does is decided here with exact fractions (`RunsAlong`). The step is one, two, five or ten
times the power of ten below the wanted distance, and never farther from it than by the root of five
halves; so an axis holds between three and eight fifths of the wanted number of steps. Up to 2.7 billion
wanted ticks the counter goes far enough on every axis, from 6.8 billion on it does so on none.

Where the counter goes far enough, the ticks are the multiples of the step that do not lie beyond the end of
the axis by more than a billionth of a step (`CoversAxis`). With doubles the same holds of the step and the
counter in the one case that is computed here, `Axis.manyTicks_never_end`.
-/

namespace Waterfall

/-! ## Decades -/

/-- A number lies between the power of ten of its leading digit and the next one. -/
theorem Digits.exists_count_eq {n : Nat} (hn : 0 < n) : ∃ k, count n = k + 1 ∧ 10 ^ k ≤ n ∧ n < 10 ^ (k + 1) := by
  have hpos : 0 < count n := lt_count hn
  obtain ⟨k, hk⟩ : ∃ k, count n = k + 1 := Nat.exists_eq_succ_of_ne_zero hpos.ne'
  refine ⟨k, hk, ?_, lt_tenTo hk.le⟩
  cases k with
  | zero => exact hn
  | succ k =>
    apply tenTo_le
    omega

/-- So does a quotient, which may be less than one. -/
theorem magnitude_spec {num den : Nat} (hnum : 0 < num) (hden : 0 < den) :
    (10 : ℚ) ^ magnitude num den ≤ num / den ∧ (num : ℚ) / den < 10 ^ (magnitude num den + 1) := by
  have hden' : (0 : ℚ) < den := by exact_mod_cast hden
  rw [le_div_iff₀ hden', div_lt_iff₀ hden']
  unfold magnitude
  split_ifs with hle
  · -- The leading digit is that of the whole part.
    obtain ⟨k, hcount, hlow, hhigh⟩ := Digits.exists_count_eq (Nat.div_pos hle hden)
    rw [Nat.le_div_iff_mul_le hden] at hlow
    rw [Nat.div_lt_iff_lt_mul hden] at hhigh
    have hexp : (((k + 1 : Nat) : Int) - 1) = k := by omega
    rw [hcount, hexp, zpow_natCast, show (k : Int) + 1 = ((k + 1 : Nat) : Int) by rfl, zpow_natCast]
    exact ⟨by exact_mod_cast hlow, by exact_mod_cast hhigh⟩
  · -- So many zeros stand before it as the largest number has digits that the quotient takes below one.
    have hpos : 0 < (den - 1) / num := Nat.div_pos (by omega) hnum
    obtain ⟨k, hcount, hlow, hhigh⟩ := Digits.exists_count_eq hpos
    rw [Nat.le_div_iff_mul_le hnum] at hlow
    rw [Nat.div_lt_iff_lt_mul hnum] at hhigh
    have hexp : -((k + 1 : Nat) : Int) + 1 = -(k : Int) := by omega
    rw [hcount, hexp, zpow_neg, zpow_neg, zpow_natCast, zpow_natCast, inv_mul_le_iff₀ (by positivity),
      lt_inv_mul_iff₀ (by positivity)]
    have hlow' : 10 ^ k * num < den := by omega
    have hhigh' : den ≤ 10 ^ (k + 1) * num := by omega
    exact ⟨by exact_mod_cast hhigh', by exact_mod_cast hlow'⟩

namespace Tick

theorem tenPower_eq (k : Int) : (TickScale.tenPower k : ℚ) = 10 ^ k := by
  show (if 0 ≤ k then (tenTo k.toNat : ℚ) else 1 / tenTo (-k).toNat) = 10 ^ k
  split_ifs with hk
  · obtain ⟨n, rfl⟩ := Int.eq_ofNat_of_zero_le hk
    simp [tenTo]
  · obtain ⟨n, hn⟩ := Int.eq_ofNat_of_zero_le (show 0 ≤ -k by omega)
    obtain rfl : k = -n := by omega
    simp [tenTo]

/-- The power of ten below a positive number. -/
theorem decade_spec {x : ℚ} (hx : 0 < x) :
    (10 : ℚ) ^ TickScale.decade x ≤ x ∧ x < 10 ^ (TickScale.decade x + 1) := by
  have hnum : 0 < x.num.toNat := by
    have := Rat.num_pos.mpr hx
    omega
  have hx' : (x.num.toNat : ℚ) / x.den = x := by
    have hcast : ((x.num.toNat : Int) : ℚ) = x.num := by
      rw [Int.toNat_of_nonneg (Rat.num_pos.mpr hx).le]
    rw [← Int.cast_natCast, hcast, Rat.num_div_den]
  have hspec := magnitude_spec hnum x.den_pos
  rwa [hx'] at hspec

/-- Divided by that power, the number has one digit before the point. -/
theorem div_decade_bounds {x : ℚ} (hx : 0 < x) :
    1 ≤ x / 10 ^ TickScale.decade x ∧ x / 10 ^ TickScale.decade x < 10 := by
  obtain ⟨hlow, hhigh⟩ := decade_spec hx
  have hpower : (0 : ℚ) < 10 ^ TickScale.decade x := zpow_pos (by norm_num) _
  constructor
  · exact (one_le_div hpower).mpr hlow
  · apply (div_lt_iff₀ hpower).mpr
    rwa [zpow_add_one₀ (by norm_num), mul_comm] at hhigh

/-! ## The step -/

theorem reachesRoot_iff {x : ℚ} (hx : 0 ≤ x) (n : Nat) : TickScale.reachesRoot x n = true ↔ (n : ℚ) ≤ x * x := by
  show (decide (0 ≤ x) && decide ((n : ℚ) ≤ x * x)) = true ↔ _
  simp [hx]

/-- The factor is nearest to the ratio: neither is more than the root of five halves of the other. -/
theorem factor_spec {r : ℚ} (hlow : 1 ≤ r) (hhigh : r < 10) :
    factor r ∈ [1, 2, 5, 10] ∧ 2 * r ^ 2 < 5 * (factor r : ℚ) ^ 2 ∧ 2 * (factor r : ℚ) ^ 2 ≤ 5 * r ^ 2 := by
  have hroot : ∀ n : Nat, TickScale.reachesRoot r n = true ↔ (n : ℚ) ≤ r ^ 2 := by
    intro n
    rw [reachesRoot_iff (by linarith), sq]
  have hten : r ^ 2 < 100 := by nlinarith
  have hone : 1 ≤ r ^ 2 := by nlinarith
  simp only [factor, hroot]
  push_cast
  split_ifs with h₅₀ h₁₀ h₂
  · exact ⟨by decide, by norm_num; linarith, by norm_num; linarith⟩
  · exact ⟨by decide, by norm_num; linarith, by norm_num; linarith⟩
  · exact ⟨by decide, by norm_num; linarith, by norm_num; linarith⟩
  · exact ⟨by decide, by norm_num; linarith, by norm_num; linarith⟩

/-- What the step is for a wanted distance of ticks: a factor and the power of ten below the distance. -/
structure IsStepFor (step wanted : ℚ) : Prop where
  round : ∃ f ∈ [1, 2, 5, 10], ∃ k : Int, step = (f : Int) * 10 ^ k ∧ 10 ^ k ≤ wanted ∧ wanted < 10 ^ (k + 1)
  /-- Neither is more than the root of five halves of the other. -/
  above : 2 * wanted ^ 2 < 5 * step ^ 2
  below : 2 * step ^ 2 ≤ 5 * wanted ^ 2

theorem isStepFor_step {span : ℚ} {count : Nat} (hspan : 0 < span) (hcount : 0 < count) :
    IsStepFor (step span count) (span / count) := by
  have hwanted : 0 < span / count := by positivity
  have hdecade := decade_spec hwanted
  obtain ⟨hlow, hhigh⟩ := div_decade_bounds hwanted
  obtain ⟨hmem, habove, hbelow⟩ := factor_spec hlow hhigh
  have hstep : step span count = factor (span / count / 10 ^ TickScale.decade (span / count)) *
      10 ^ TickScale.decade (span / count) := by
    rw [← tenPower_eq]
    rfl
  rw [hstep]
  generalize span / count = w at *
  generalize TickScale.decade w = k at *
  have hpower : (0 : ℚ) < 10 ^ k := zpow_pos (by norm_num) k
  have hsquare : 0 < ((10 : ℚ) ^ k) ^ 2 := pow_pos hpower 2
  have hw : w ^ 2 = (w / 10 ^ k) ^ 2 * (10 ^ k) ^ 2 := by
    rw [← mul_pow, div_mul_cancel₀ w hpower.ne']
  refine ⟨⟨_, hmem, k, rfl, hdecade⟩, ?_, ?_⟩
  · rw [hw, mul_pow, ← mul_assoc, ← mul_assoc]
    exact mul_lt_mul_of_pos_right habove hsquare
  · rw [hw, mul_pow, ← mul_assoc, ← mul_assoc]
    exact mul_le_mul_of_nonneg_right hbelow hsquare.le

/-! ## The multiples -/

section Multiples

variable {α : Type} [TickScale α]

/-- A multiple that the counter can count to lies beyond the bound, so that the ticks end there. Otherwise
the counter overflows. -/
def Ends (step bound : α) : Prop := ∃ i < counterRange, TickScale.lt bound (step * TickScale.ofInt i) = true

/-- The multiples that are listed are those before the first one beyond the bound, as far as the counter
goes. -/
theorem multiplesFrom_eq {step bound : α} {n : Nat}
    (h : ∀ i : Nat, TickScale.lt bound (step * TickScale.ofInt i) = true ↔ n ≤ i) (counter i : Nat) :
    multiplesFrom step bound counter i =
      (List.range' i (min counter (n - i))).map fun j => step * TickScale.ofInt (j : Nat) := by
  induction counter generalizing i with
  | zero => simp [multiplesFrom]
  | succ counter ih =>
    rw [multiplesFrom]
    by_cases hbeyond : n ≤ i
    · rw [if_pos ((h i).mpr hbeyond), Nat.sub_eq_zero_of_le hbeyond, Nat.min_zero]
      rfl
    · have hmore : min (counter + 1) (n - i) = min counter (n - (i + 1)) + 1 := by omega
      rw [if_neg (mt (h i).mp hbeyond), ih (i + 1), hmore, List.range'_succ, List.map_cons]

theorem ends_iff_lt {step bound : α} {n : Nat}
    (h : ∀ i : Nat, TickScale.lt bound (step * TickScale.ofInt i) = true ↔ n ≤ i) :
    Ends step bound ↔ n < counterRange := by
  simp only [Ends, h]
  constructor
  · rintro ⟨i, hi, hn⟩
    omega
  · exact fun hn => ⟨n, hn, le_rfl⟩

end Multiples

/-! ## Ticks along an axis -/

/-- How many multiples of a step do not lie beyond a bound. -/
def multipleCount (step bound : ℚ) : Nat := ⌊bound / step⌋₊ + 1

theorem lt_mul_ofInt_iff {step bound : ℚ} (hstep : 0 < step) (hbound : 0 ≤ bound) (i : Nat) :
    TickScale.lt bound (step * TickScale.ofInt i) = true ↔ multipleCount step bound ≤ i := by
  have hlt : TickScale.lt bound (step * TickScale.ofInt i) = true ↔ bound < step * i := decide_eq_true_iff
  rw [hlt, multipleCount, Nat.succ_le_iff, Nat.floor_lt (div_nonneg hbound hstep.le), div_lt_iff₀' hstep]

section Axis

variable {stop : ℚ} {count : Nat}

/-- The distance of the ticks of an axis with that end. -/
abbrev distance (stop : ℚ) (count : Nat) : ℚ := step stop (max count 1)

/-- How far the ticks of an axis may go. -/
abbrev limit (stop : ℚ) (count : Nat) : ℚ := bound stop (distance stop count)

theorem isStepFor_distance (hstop : 0 < stop) (count : Nat) :
    IsStepFor (distance stop count) (stop / (max count 1 : Nat)) :=
  isStepFor_step hstop (by omega)

theorem distance_pos (hstop : 0 < stop) (count : Nat) : 0 < distance stop count := by
  obtain ⟨f, hf, k, hstep, -⟩ := (isStepFor_distance hstop count).round
  have hfactor : 1 ≤ f := by
    have hall : ∀ f ∈ ([1, 2, 5, 10] : List Int), 1 ≤ f := by decide
    exact hall f hf
  have hpos : (0 : ℚ) < f := by exact_mod_cast hfactor
  rw [hstep]
  exact mul_pos hpos (zpow_pos (by norm_num) k)

theorem limit_eq (stop : ℚ) (count : Nat) : limit stop count = stop + distance stop count * (1 / 10 ^ 9) := by
  have hslack : (TickScale.slack : ℚ) = 1 / 10 ^ 9 := by
    show (1 : ℚ) / tenTo 9 = 1 / 10 ^ 9
    norm_num [tenTo]
  rw [limit, bound, hslack]

theorem limit_nonneg (hstop : 0 < stop) (count : Nat) : 0 ≤ limit stop count := by
  have hdistance := distance_pos hstop count
  rw [limit_eq]
  positivity

theorem limit_div_distance (hstop : 0 < stop) (count : Nat) :
    limit stop count / distance stop count = stop / distance stop count + 1 / 10 ^ 9 := by
  rw [limit_eq, add_div, mul_div_cancel_left₀ _ (distance_pos hstop count).ne']

theorem beyond_limit_iff (hstop : 0 < stop) (count i : Nat) :
    TickScale.lt (limit stop count) (distance stop count * TickScale.ofInt i) = true ↔
      multipleCount (distance stop count) (limit stop count) ≤ i :=
  lt_mul_ofInt_iff (distance_pos hstop count) (limit_nonneg hstop count) i

theorem values_eq_map (hstop : 0 < stop) (count : Nat) :
    values stop count =
      (List.range (min counterRange (multipleCount (distance stop count) (limit stop count)))).map
        fun i => distance stop count * (i : Nat) := by
  rw [values, multiplesFrom_eq (beyond_limit_iff hstop count), Nat.sub_zero, ← List.range_eq_range']
  rfl

theorem ends_iff_multipleCount_lt (hstop : 0 < stop) (count : Nat) :
    Ends (distance stop count) (limit stop count) ↔
      multipleCount (distance stop count) (limit stop count) < 2 ^ 32 :=
  ends_iff_lt (beyond_limit_iff hstop count)

/-- The ticks end if the axis holds fewer steps than the counter has values. -/
theorem ends_iff (hstop : 0 < stop) (count : Nat) :
    Ends (distance stop count) (limit stop count) ↔ stop / distance stop count + 1 / 10 ^ 9 < 2 ^ 32 - 1 := by
  have hdistance := distance_pos hstop count
  have hratio : 0 ≤ limit stop count / distance stop count :=
    div_nonneg (limit_nonneg hstop count) hdistance.le
  rw [ends_iff_multipleCount_lt hstop, multipleCount, ← Nat.lt_sub_iff_add_lt, Nat.floor_lt hratio,
    limit_div_distance hstop]
  norm_num

/-- The axis holds about as many steps as are wanted. -/
theorem stepCount_sq (hstop : 0 < stop) (count : Nat) :
    2 * (stop / distance stop count) ^ 2 < 5 * ((max count 1 : Nat) : ℚ) ^ 2 ∧
      2 * ((max count 1 : Nat) : ℚ) ^ 2 ≤ 5 * (stop / distance stop count) ^ 2 := by
  -- Cleared of fractions, the bounds of the step are those of the quotient.
  obtain ⟨-, habove, hbelow⟩ := isStepFor_distance hstop count
  have hs := distance_pos hstop count
  have hc : (0 : ℚ) < (max count 1 : Nat) := by
    have : 0 < max count 1 := by omega
    exact_mod_cast this
  generalize distance stop count = s at *
  generalize ((max count 1 : Nat) : ℚ) = c at *
  simp only [div_pow, ← mul_div_assoc] at habove hbelow ⊢
  rw [div_lt_iff₀ (pow_pos hs 2), le_div_iff₀ (pow_pos hs 2)]
  rw [div_lt_iff₀ (pow_pos hc 2)] at habove
  rw [le_div_iff₀ (pow_pos hc 2)] at hbelow
  exact ⟨by linarith, by linarith⟩

/-- With a count up to some billions the counter goes far enough. -/
theorem ends_of_le (hstop : 0 < stop) (hcount : count ≤ 2700000000) :
    Ends (distance stop count) (limit stop count) := by
  have hle : ((max count 1 : Nat) : ℚ) ≤ 2700000000 := by
    have : max count 1 ≤ 2700000000 := by omega
    exact_mod_cast this
  have hsteps := (stepCount_sq hstop count).1
  rw [ends_iff hstop]
  have hfew : stop / distance stop count < 4294967294 := by
    by_contra hmany
    nlinarith
  linarith

/-- With a larger count it does not, on any axis. -/
theorem not_ends_of_le (hstop : 0 < stop) (hcount : 6800000000 ≤ count) :
    ¬ Ends (distance stop count) (limit stop count) := by
  have hle : (6800000000 : ℚ) ≤ (max count 1 : Nat) := by
    have : 6800000000 ≤ max count 1 := by omega
    exact_mod_cast this
  have hsteps := (stepCount_sq hstop count).2
  have hpos : 0 < stop / distance stop count := div_pos hstop (distance_pos hstop count)
  rw [ends_iff hstop]
  intro hlt
  have hfew : stop / distance stop count < 4294967295 := by linarith
  nlinarith

theorem pairwise_values (hstop : 0 < stop) (count : Nat) : (values stop count).Pairwise (· < ·) := by
  have hdistance := distance_pos hstop count
  rw [values_eq_map hstop, List.pairwise_map]
  refine List.pairwise_lt_range.imp fun {i j} hij => ?_
  exact mul_lt_mul_of_pos_left (by exact_mod_cast hij) hdistance

theorem head?_values (hstop : 0 < stop) (count : Nat) : (values stop count).head? = some 0 := by
  have hsome : min counterRange (multipleCount (distance stop count) (limit stop count)) ≠ 0 := by
    have hpos : 0 < counterRange := by decide
    have hmany : 0 < multipleCount (distance stop count) (limit stop count) := Nat.succ_pos _
    omega
  rw [values_eq_map hstop, List.head?_map, List.head?_range, if_neg hsome]
  simp

/-- Where the ticks end, the last of them is less than a step before the limit. -/
theorem exists_getLast?_values (hstop : 0 < stop) (hends : Ends (distance stop count) (limit stop count)) :
    ∃ last, (values stop count).getLast? = some last ∧ last ≤ limit stop count ∧
      limit stop count < last + distance stop count := by
  have hdistance := distance_pos hstop count
  have hlimit := limit_nonneg hstop count
  have hcounted : min counterRange (multipleCount (distance stop count) (limit stop count)) =
      ⌊limit stop count / distance stop count⌋₊ + 1 :=
    Nat.min_eq_right ((ends_iff_multipleCount_lt hstop count).mp hends).le
  refine ⟨distance stop count * ⌊limit stop count / distance stop count⌋₊, ?_, ?_, ?_⟩
  · rw [values_eq_map hstop, hcounted, List.range_succ, List.map_append]
    simp
  · rw [← le_div_iff₀' hdistance]
    exact Nat.floor_le (div_nonneg hlimit hdistance.le)
  · have hnext := Nat.lt_floor_add_one (limit stop count / distance stop count)
    rw [div_lt_iff₀' hdistance] at hnext
    linarith

/-! ## Main statement -/

/-- The ticks on an axis with that end are the multiples of the step along it. -/
structure CoversAxis (stop : ℚ) (count : Nat) : Prop where
  first : (values stop count).head? = some 0
  increasing : (values stop count).Pairwise (· < ·)
  values_eq : values stop count =
    (List.range (multipleCount (distance stop count) (limit stop count))).map
      fun i => distance stop count * (i : Nat)
  /-- The last one is not beyond the end, and the next one would be. -/
  last : ∃ last, (values stop count).getLast? = some last ∧ last ≤ limit stop count ∧
    limit stop count < last + distance stop count

theorem coversAxis (hstop : 0 < stop) (hends : Ends (distance stop count) (limit stop count)) :
    CoversAxis stop count where
  first := head?_values hstop count
  increasing := pairwise_values hstop count
  values_eq := by
    have hcounted : multipleCount (distance stop count) (limit stop count) ≤ counterRange :=
      ((ends_iff_multipleCount_lt hstop count).mp hends).le
    rw [values_eq_map hstop, Nat.min_eq_right hcounted]
  last := exists_getLast?_values hstop hends

/-- The ticks on an axis with that end when about `count` of them are wanted. -/
structure RunsAlong (stop : ℚ) (count : Nat) : Prop where
  isStepFor : IsStepFor (distance stop count) (stop / (max count 1 : Nat))
  /-- The counter goes far enough exactly if the axis holds fewer steps than it has values. -/
  ends_iff : Ends (distance stop count) (limit stop count) ↔
    stop / distance stop count + 1 / 10 ^ 9 < 2 ^ 32 - 1
  ends_of_le : count ≤ 2700000000 → Ends (distance stop count) (limit stop count)
  not_ends_of_le : 6800000000 ≤ count → ¬ Ends (distance stop count) (limit stop count)
  coversAxis : Ends (distance stop count) (limit stop count) → CoversAxis stop count

theorem runsAlong (hstop : 0 < stop) (count : Nat) : RunsAlong stop count where
  isStepFor := isStepFor_distance hstop count
  ends_iff := ends_iff hstop count
  ends_of_le := ends_of_le hstop
  not_ends_of_le := not_ends_of_le hstop
  coversAxis := coversAxis hstop

end Axis

end Tick

/-- **Ticks run to the end of the axis, as far as they can be counted.** They do so on every axis if some
billions of them are wanted and not more, and there is an exact condition for all numbers. Where they do,
they start at zero and increase by a round step along the whole axis. -/
theorem Axis.ticks_run_along (nodes : List Node) (width : Float32) (count : Nat) :
    Tick.RunsAlong (ofNodes nodes width).axisMax count := by
  have hlong : 1 ≤ (ofNodes nodes width).axisMax := one_le_axisMax _ _
  have hstop : (0 : ℚ) < (ofNodes nodes width).axisMax := by
    have : 0 < (ofNodes nodes width).axisMax := by omega
    exact_mod_cast this
  exact Tick.runsAlong hstop count

/-! ## Ticks that do not end -/

namespace Tick

/-- More ticks than can be counted. -/
def manyTicks : Nat := 9223372036854775807

theorem decade_manyTicks : decade (doubleOfInt 1 / doubleOfInt manyTicks) = -19 := by
  have hvalue : Binary.ofFloat (doubleOfInt 1 / doubleOfInt manyTicks) = .finite false (2 ^ 52) (-115) := by
    decide +kernel
  have hcount : Digits.count (2 ^ 63 - 1) = 19 :=
    le_antisymm (Digits.count_le (by decide)) (Digits.lt_count (k := 18) (by decide))
  have hmagnitude : magnitude (2 ^ 52) (2 ^ 115) = -19 := by
    have hquotient : (2 ^ 115 - 1) / 2 ^ 52 = 2 ^ 63 - 1 := by decide
    rw [magnitude, if_neg (by decide), hquotient, hcount]
    rfl
  have hreaches : Decade.reaches (2 ^ 52) (2 ^ 115) (-19 + 1) = false := by decide
  rw [decade, hvalue]
  show (if 2 ^ 52 = 0 then (0 : Int) else
    if Decade.reaches (2 ^ 52) (2 ^ 115) (magnitude (2 ^ 52) (2 ^ 115) + 1) then
      magnitude (2 ^ 52) (2 ^ 115) + 1 else magnitude (2 ^ 52) (2 ^ 115)) = -19
  rw [if_neg (by decide), hmagnitude, hreaches]
  rfl

/-- The step is the double nearest to the power of ten. -/
theorem step_manyTicks : step (doubleOfInt 1) manyTicks = tenPower (-19) := by
  have hfactor : factor (doubleOfInt 1 / doubleOfInt manyTicks / tenPower (-19)) = 1 := by decide +kernel
  show doubleOfInt (factor (doubleOfInt 1 / doubleOfInt manyTicks /
    tenPower (decade (doubleOfInt 1 / doubleOfInt manyTicks)))) *
      tenPower (decade (doubleOfInt 1 / doubleOfInt manyTicks)) = tenPower (-19)
  rw [decade_manyTicks, hfactor]
  decide +kernel

/-- No multiple that can be counted to is more than one. -/
theorem not_ends_double :
    ¬ Ends (step (doubleOfInt 1) manyTicks) (bound (doubleOfInt 1) (step (doubleOfInt 1) manyTicks)) := by
  have hbound : bound (doubleOfInt 1) (tenPower (-19)) = doubleOfInt 1 := by decide +kernel
  have hstep : AtMost (-116) (tenPower (-19)).toModel.unpack := show (-116 : Int) ≤ -116 from le_rfl
  rw [step_manyTicks, hbound]
  rintro ⟨i, hi, hbeyond⟩
  -- Only the sizes are bounded: what the product is exactly does not matter this far below one.
  have hcounted : AtMost 1 (doubleOfInt i).toModel.unpack :=
    atMost_doubleOfInt (k := 1) (Nat.lt_trans hi (by decide)) (by decide) (by decide)
  have hproduct : AtMost (-116 + 1 + 54) (tenPower (-19) * doubleOfInt i).toModel.unpack :=
    atMost_mul hstep hcounted (by decide) (by decide)
  exact not_one_lt_of_atMost hproduct (by decide) (decide_eq_true_iff.mp hbeyond)

end Tick

/-- On an axis of one millisecond so many ticks do not come to the end before the counter overflows, neither
with exact fractions nor with doubles. -/
theorem Axis.manyTicks_never_end :
    Tick.manyTicks < 2 ^ 64 ∧
      ¬ Tick.Ends (Tick.distance (ofNodes [] 100).axisMax Tick.manyTicks)
        (Tick.limit (ofNodes [] 100).axisMax Tick.manyTicks) ∧
      ¬ Tick.Ends (Tick.step (doubleOfInt (ofNodes [] 100).axisMax) Tick.manyTicks)
        (Tick.bound (doubleOfInt (ofNodes [] 100).axisMax)
          (Tick.step (doubleOfInt (ofNodes [] 100).axisMax) Tick.manyTicks)) := by
  have hshort : (ofNodes [] 100).axisMax = 1 := by decide +kernel
  rw [hshort, Int.cast_one]
  have hexact : ¬ Tick.Ends (Tick.distance 1 Tick.manyTicks) (Tick.limit 1 Tick.manyTicks) :=
    Tick.not_ends_of_le (by norm_num) (by decide)
  exact ⟨by decide, hexact, Tick.not_ends_double⟩

end Waterfall
