import Mathlib
import Waterfall.Layout.Axis

/-!
# Where an axis ends

The end of an axis is computed from digits: count them, scale the extent down to the second one, round
up and scale back. What comes out has a description without digits, `IsEndOf`: the least number from
the extent on that has at most two significant digits, or the extent itself where the range of times
holds no such number.

The middle of the argument is `isLeast_scaled`: rounding up by the unit of the second digit finds the
least round number because a round number with a smaller unit has too few digits to reach the extent.
From the description alone follows that rounding is a closure operator on the range of times.
-/

namespace Waterfall.Axis

/-! ## Counting digits -/

theorem digitCount_eq_length (n : Nat) : digitCount n = (Nat.toDigits 10 n).length := by
  induction n using Nat.strongRecOn with
  | ind n ih =>
    rw [digitCount]
    split_ifs with hlt
    · simp [Nat.toDigits_of_lt_base hlt]
    · have hle : 10 ≤ n := by omega
      rw [ih (n / 10) (by omega), Nat.toDigits_of_base_le (by decide) hle]
      simp

theorem one_le_digitCount (n : Nat) : 1 ≤ digitCount n := by
  rw [digitCount_eq_length]
  exact Nat.length_toDigits_pos

theorem digitCount_le_iff {n k : Nat} (hk : 0 < k) : digitCount n ≤ k ↔ n < 10 ^ k := by
  rw [digitCount_eq_length]
  exact Nat.length_toDigits_le_iff (by decide) hk

theorem lt_pow_digitCount (n : Nat) : n < 10 ^ digitCount n :=
  (digitCount_le_iff (one_le_digitCount n)).mp le_rfl

/-- A number of several digits reaches the power of ten of its first one. -/
theorem pow_le_of_two_le_digitCount {n : Nat} (h : 2 ≤ digitCount n) : 10 ^ (digitCount n - 1) ≤ n := by
  by_contra hlt
  have hfewer : digitCount n ≤ digitCount n - 1 := (digitCount_le_iff (by omega)).mpr (by omega)
  omega

theorem unit_eq (digits : Nat) : unit digits = 10 ^ (digits - 2) := by
  simp [unit, tenTo]

theorem unit_pos (digits : Nat) : 0 < unit digits := by
  rw [unit_eq]
  positivity

/-! ## Rounding up to whole units -/

/-- So many units are enough exactly when they reach the extent. -/
theorem unitsUp_le_iff {extent unit q : Int} (hu : 0 < unit) :
    unitsUp extent unit ≤ q ↔ extent ≤ q * unit := by
  have hsplit := Int.mul_ediv_add_emod extent unit
  have hnonneg := Int.emod_nonneg extent hu.ne'
  have hlt := Int.emod_lt_of_pos extent hu
  unfold unitsUp
  split_ifs with hrest
  · constructor
    · intro hle
      nlinarith
    · intro hle
      by_contra hgt
      have : q ≤ extent / unit := by omega
      have hpos : 0 < extent % unit := by omega
      nlinarith
  · have hzero : extent % unit = 0 := by omega
    constructor
    · intro hle
      nlinarith
    · intro hle
      by_contra hgt
      have : q + 1 ≤ extent / unit := by omega
      nlinarith

theorem unitsUp_eq_ceil {extent unit : Int} (hu : 0 < unit) :
    unitsUp extent unit = ⌈(extent : ℚ) / unit⌉ := by
  refine eq_of_forall_ge_iff fun q => ?_
  have huq : (0 : ℚ) < unit := by exact_mod_cast hu
  rw [unitsUp_le_iff hu, Int.ceil_le, div_le_iff₀ huq]
  norm_cast

theorem le_unitsUp_mul {extent unit : Int} (hu : 0 < unit) : extent ≤ unitsUp extent unit * unit :=
  (unitsUp_le_iff hu).mp le_rfl

/-! ## Round numbers -/

/-- The numbers with at most two significant decimal digits. -/
def twoDigits : Set Int := {n | ∃ m k : Nat, 1 ≤ m ∧ m ≤ 99 ∧ n = m * 10 ^ k}

/-- The round numbers at which an axis of that extent may end; none ends before one millisecond. -/
def roundEnds (extent : Int) : Set Int := {n | max extent 1 ≤ n ∧ n ∈ twoDigits}

/-- The end that belongs to an extent: the least round one, or the extent where none is in range. -/
def IsEndOf (extent stop : Int) : Prop :=
  ((∃ n ∈ roundEnds extent, n ≤ Time.most) → IsLeast (roundEnds extent) stop) ∧
  ((¬ ∃ n ∈ roundEnds extent, n ≤ Time.most) → stop = extent)

section Scaled

variable {n : Nat}

/-- The digits of an extent leave at most a hundred units of its second digit. -/
theorem unitsUp_le_hundred (n : Nat) : unitsUp n (unit (digitCount n)) ≤ 100 := by
  rw [unitsUp_le_iff (unit_pos _), unit_eq]
  have hlt := lt_pow_digitCount n
  have hpow : (10 : Nat) ^ digitCount n ≤ 100 * 10 ^ (digitCount n - 2) := by
    calc (10 : Nat) ^ digitCount n ≤ 10 ^ (2 + (digitCount n - 2)) :=
          Nat.pow_le_pow_right (by decide) (by omega)
      _ = 100 * 10 ^ (digitCount n - 2) := by rw [pow_add]; norm_num
  exact_mod_cast (hlt.trans_le hpow).le

theorem one_le_unitsUp (hn : 1 ≤ n) : 1 ≤ unitsUp n (unit (digitCount n)) := by
  by_contra hlt
  have hle : (n : Int) ≤ 0 * unit (digitCount n) := (unitsUp_le_iff (unit_pos _)).mp (by omega)
  omega

/-- The scaled bound has two digits; a hundred units are ten of the next power. -/
theorem scaled_mem_roundEnds (hn : 1 ≤ n) :
    unitsUp n (unit (digitCount n)) * unit (digitCount n) ∈ roundEnds n := by
  have hge : (n : Int) ≤ unitsUp n (unit (digitCount n)) * unit (digitCount n) :=
    le_unitsUp_mul (unit_pos _)
  have hone := one_le_unitsUp hn
  have hhundred := unitsUp_le_hundred n
  refine ⟨by omega, ?_⟩
  obtain ⟨m, hm⟩ : ∃ m : Nat, unitsUp n (unit (digitCount n)) = m :=
    ⟨_, (Int.toNat_of_nonneg (by omega)).symm⟩
  rw [hm] at hone hhundred ⊢
  rw [unit_eq]
  rcases Nat.lt_or_ge m 100 with hlt | hge
  · exact ⟨m, digitCount n - 2, by omega, by omega, rfl⟩
  · obtain rfl : m = 100 := by omega
    refine ⟨10, digitCount n - 2 + 1, by decide, by decide, ?_⟩
    rw [pow_succ]
    push_cast
    ring

/-- **The scaled bound is the least round number that reaches the extent.** A multiple of the unit is
no smaller because the scaling rounds up; a round number that is no multiple of the unit ends at least
one digit too early. -/
theorem isLeast_scaled (hn : 1 ≤ n) :
    IsLeast (roundEnds n) (unitsUp n (unit (digitCount n)) * unit (digitCount n)) := by
  refine ⟨scaled_mem_roundEnds hn, ?_⟩
  rintro _ ⟨hreach, m, k, hm₁, hm₂, rfl⟩
  have hu := unit_pos (digitCount n)
  rcases Nat.lt_or_ge k (digitCount n - 2) with hk | hk
  · -- With `k + 2` digits at most, the number stays below the first digit of the extent.
    exfalso
    have hfirst := pow_le_of_two_le_digitCount (show 2 ≤ digitCount n by omega)
    have hsmall : m * 10 ^ k < 10 ^ (digitCount n - 1) := by
      calc m * 10 ^ k < 100 * 10 ^ k := by
            have : 0 < 10 ^ k := Nat.pow_pos (by decide)
            nlinarith
        _ = 10 ^ (2 + k) := by rw [pow_add]; norm_num
        _ ≤ 10 ^ (digitCount n - 1) := Nat.pow_le_pow_right (by decide) (by omega)
    have hcast : (n : Int) ≤ (m * 10 ^ k : Nat) := by
      push_cast
      omega
    omega
  · obtain ⟨j, rfl⟩ := Nat.exists_eq_add_of_le hk
    have hmul : (m : Int) * 10 ^ (digitCount n - 2 + j) = m * 10 ^ j * unit (digitCount n) := by
      rw [unit_eq, pow_add]
      ring
    rw [hmul]
    refine Int.mul_le_mul_of_nonneg_right ?_ hu.le
    rw [unitsUp_le_iff hu, ← hmul]
    omega

end Scaled

/-! ## The end of an axis -/

theorem one_mem_roundEnds_zero : (1 : Int) ∈ roundEnds 0 :=
  ⟨by decide, 1, 0, by decide, by decide, by norm_num⟩

/-- An axis ends where its extent says, whatever its width. -/
theorem isEndOf_axisMax {extent : Int} (h₀ : 0 ≤ extent) (width : Float32) :
    IsEndOf extent (ofExtent extent width).axisMax := by
  obtain ⟨n, rfl⟩ := Int.eq_ofNat_of_zero_le h₀
  rcases Nat.eq_zero_or_pos n with rfl | hn
  · have hone : (ofExtent 0 width).axisMax = 1 := by
      simp [ofExtent, unitsUp, Time.most]
    have hfits : (1 : Int) ≤ Time.most := by decide
    rw [IsEndOf, Nat.cast_zero, hone]
    refine ⟨fun _ => ⟨one_mem_roundEnds_zero, ?_⟩, fun hnone => ?_⟩
    · rintro k ⟨hk, -⟩
      omega
    · exact absurd ⟨1, one_mem_roundEnds_zero, hfits⟩ hnone
  · have hleast := isLeast_scaled hn
    obtain ⟨hreach, -⟩ := hleast.1
    simp only [ofExtent, Int.toNat_natCast]
    split_ifs with hbound hsmall
    · omega
    · exact ⟨fun _ => hleast, fun hnone => absurd ⟨_, hleast.1, hbound⟩ hnone⟩
    · omega
    · refine ⟨?_, fun _ => rfl⟩
      rintro ⟨k, hk, hle⟩
      have := hleast.2 hk
      omega

namespace IsEndOf

variable {extent stop extent' stop' : Int}

theorem le_stop (h : IsEndOf extent stop) : extent ≤ stop := by
  by_cases hfit : ∃ n ∈ roundEnds extent, n ≤ Time.most
  · have := (h.1 hfit).1.1
    omega
  · exact (h.2 hfit).ge

theorem stop_le_most (h : IsEndOf extent stop) (hm : extent ≤ Time.most) : stop ≤ Time.most := by
  by_cases hfit : ∃ n ∈ roundEnds extent, n ≤ Time.most
  · obtain ⟨n, hn, hle⟩ := hfit
    exact ((h.1 ⟨n, hn, hle⟩).2 hn).trans hle
  · exact (h.2 hfit).le.trans hm

/-- An extent that another axis covers has its own end no later than that axis. -/
theorem stop_le_stop (h : IsEndOf extent stop) (h' : IsEndOf extent' stop')
    (hm : extent' ≤ Time.most) (hcover : extent ≤ stop') : stop ≤ stop' := by
  have hm' := h'.stop_le_most hm
  by_cases hfit' : ∃ n ∈ roundEnds extent', n ≤ Time.most
  · -- The other end is round, so it is one of the round numbers that reach the extent.
    obtain ⟨hge, hround⟩ := (h'.1 hfit').1
    have hmem : stop' ∈ roundEnds extent := ⟨by omega, hround⟩
    exact (h.1 ⟨stop', hmem, hm'⟩).2 hmem
  · have hstop' := h'.2 hfit'
    by_cases hfit : ∃ n ∈ roundEnds extent, n ≤ Time.most
    · by_contra hlt
      obtain ⟨hge, hround⟩ := (h.1 hfit).1
      have hle : stop ≤ Time.most := h.stop_le_most (by omega)
      exact hfit' ⟨stop, ⟨by omega, hround⟩, hle⟩
    · rw [h.2 hfit]
      exact hcover

end IsEndOf

/-- Rounding an extent up to the end of its axis is a closure operator on the range of times. -/
theorem exists_closureOperator (width : Float32) :
    ∃ c : ClosureOperator (Set.Icc (0 : Int) Time.most),
      ∀ e, (c e : Int) = (ofExtent e width).axisMax := by
  have hend : ∀ e : Set.Icc (0 : Int) Time.most, IsEndOf e (ofExtent e width).axisMax :=
    fun e => isEndOf_axisMax e.2.1 width
  have hrange : ∀ e : Set.Icc (0 : Int) Time.most,
      (ofExtent e width).axisMax ∈ Set.Icc 0 Time.most := by
    intro e
    have := one_le_axisMax e width
    exact ⟨by omega, (hend e).stop_le_most e.2.2⟩
  refine ⟨.mk₂ (fun e => ⟨(ofExtent e width).axisMax, hrange e⟩) ?_ ?_, fun e => rfl⟩
  · intro e
    exact (hend e).le_stop
  · intro e e' hcover
    exact (hend e).stop_le_stop (hend e') e'.2.2 hcover

/-! ## The extent, and the range of all values on the way -/

theorem isGreatest_foldl_max (nodes : List Node) (e : Int) :
    IsGreatest (insert e {t | ∃ n ∈ nodes, t = n.endOffset})
      (nodes.foldl (fun e n => max e n.endOffset) e) := by
  induction nodes generalizing e with
  | nil => simp [IsGreatest, upperBounds]
  | cons n rest ih =>
    obtain ⟨hmem, hle⟩ := ih (max e n.endOffset)
    have hstart : max e n.endOffset ≤ rest.foldl (fun e n => max e n.endOffset) (max e n.endOffset) :=
      hle (Set.mem_insert _ _)
    simp only [List.foldl_cons]
    constructor
    · rcases hmem with hfirst | ⟨n', hn', heq⟩
      · rw [hfirst]
        rcases le_total e n.endOffset with h | h
        · rw [max_eq_right h]
          exact Or.inr ⟨n, by simp, rfl⟩
        · rw [max_eq_left h]
          exact Or.inl rfl
      · exact Or.inr ⟨n', by simp [hn'], heq⟩
    · rintro t (rfl | ⟨n', hn', rfl⟩)
      · omega
      · rcases List.mem_cons.mp hn' with rfl | hrest
        · omega
        · exact hle (Or.inr ⟨n', hrest, rfl⟩)

/-- The extent is the largest of zero and the ends of all nodes. -/
theorem isGreatest_extent (nodes : List Node) :
    IsGreatest (insert 0 {t | ∃ n ∈ nodes, t = Time.clamp (n.startOffset + n.duration)})
      (extent nodes) :=
  isGreatest_foldl_max nodes 0

theorem extent_nonneg (nodes : List Node) : 0 ≤ extent nodes :=
  (isGreatest_extent nodes).2 (Set.mem_insert _ _)

theorem extent_le_most (nodes : List Node) : extent nodes ≤ Time.most := by
  rcases (isGreatest_extent nodes).1 with hzero | ⟨n, -, hn⟩
  · rw [hzero]
    decide
  · rw [hn]
    exact (Time.fits_iff.mp (Time.fits_clamp _)).2

/-- Every value on the way to an axis is in the range of times; the scaled bound is not among them,
it is refused where it leaves the range. -/
structure InRange (a : Axis) : Prop where
  maxExtent : Time.fits a.maxExtent
  /-- The exponent of the unit fits 32 bits by far. -/
  digits : 1 ≤ a.digits ∧ a.digits ≤ 19
  unit : Time.fits (unit a.digits)
  quotient : Time.fits (a.maxExtent / Axis.unit a.digits)
  scale : Time.fits (unitsUp a.maxExtent (Axis.unit a.digits))
  roundedScale : Time.fits a.roundedScale
  axisMax : Time.fits a.axisMax

theorem digitCount_le_nineteen {n : Nat} (h : (n : Int) ≤ Time.most) : digitCount n ≤ 19 := by
  rw [digitCount_le_iff (by decide)]
  simp only [Time.most] at h
  omega

theorem unit_le {digits : Nat} (h : digits ≤ 19) : unit digits ≤ 10 ^ 17 := by
  rw [unit_eq]
  exact_mod_cast Nat.pow_le_pow_right (by decide) (by omega)

theorem inRange_ofExtent {extent : Int} (h₀ : 0 ≤ extent) (hm : extent ≤ Time.most)
    (width : Float32) : InRange (ofExtent extent width) := by
  obtain ⟨n, rfl⟩ := Int.eq_ofNat_of_zero_le h₀
  have hdigits := digitCount_le_nineteen hm
  have hu := unit_pos (digitCount n)
  have hunit := unit_le hdigits
  have hscale : 0 ≤ unitsUp n (unit (digitCount n)) ∧ unitsUp n (unit (digitCount n)) ≤ 100 := by
    refine ⟨?_, unitsUp_le_hundred n⟩
    rcases Nat.eq_zero_or_pos n with rfl | hn
    · simp [unitsUp]
    · have := one_le_unitsUp hn
      omega
  have hquotient : 0 ≤ (n : Int) / unit (digitCount n) ∧ (n : Int) / unit (digitCount n) ≤ n :=
    ⟨Int.ediv_nonneg h₀ hu.le, Int.ediv_le_self _ h₀⟩
  have hstop := (isEndOf_axisMax h₀ width).stop_le_most hm
  have hone := one_le_axisMax n width
  have hmost : (10 : Int) ^ 17 ≤ Time.most := by decide
  have hleast : Time.least ≤ 0 := by decide
  refine ⟨?_, ⟨one_le_digitCount n, hdigits⟩, ?_, ?_, ?_, ?_, ?_⟩ <;> rw [Time.fits_iff]
  · exact ⟨hleast.trans h₀, hm⟩
  · simp only [ofExtent, Int.toNat_natCast]
    omega
  · simp only [ofExtent, Int.toNat_natCast]
    omega
  · simp only [ofExtent, Int.toNat_natCast]
    omega
  · simp only [ofExtent, Int.toNat_natCast]
    split_ifs <;> omega
  · omega

theorem roundedScale_eq {extent : Int} (h₀ : 0 ≤ extent) (width : Float32) :
    (ofExtent extent width).roundedScale =
      if extent = 0 then 1 else ⌈(extent : ℚ) / 10 ^ (digitCount extent.toNat - 2)⌉ := by
  have hu := unit_pos (digitCount extent.toNat)
  have hceil : unitsUp extent (unit (digitCount extent.toNat)) =
      ⌈(extent : ℚ) / 10 ^ (digitCount extent.toNat - 2)⌉ := by
    rw [unitsUp_eq_ceil hu, unit_eq]
    norm_cast
  have hreach : extent ≤ unitsUp extent (unit (digitCount extent.toNat)) * unit (digitCount extent.toNat) :=
    le_unitsUp_mul hu
  rw [← hceil]
  rcases eq_or_lt_of_le h₀ with rfl | hpos
  · simp [ofExtent, unitsUp, Time.most]
  · -- A bound below one could only come from an extent of zero.
    rw [if_neg hpos.ne']
    simp only [ofExtent]
    rw [if_neg]
    split_ifs <;> omega

/-! ## Main statement -/

/-- **The axis of any nodes.** Its extent is the largest of zero and the ends of the nodes, its digits
are those of the extent in decimal, and it ends at the least number from the extent (and from one) on
that has at most two significant digits, or at the extent where no such number is in range. No value
on the way leaves the range of times. As a map of extents, rounding is extensive, monotone and
idempotent on the whole range. -/
theorem axis_ends_at_least_round_number (nodes : List Node) (width : Float32) :
    IsGreatest (insert 0 {t | ∃ n ∈ nodes, t = Time.clamp (n.startOffset + n.duration)})
      (ofNodes nodes width).maxExtent ∧
    InRange (ofNodes nodes width) ∧
    (ofNodes nodes width).digits = (Nat.toDigits 10 (ofNodes nodes width).maxExtent.toNat).length ∧
    IsEndOf (ofNodes nodes width).maxExtent (ofNodes nodes width).axisMax ∧
    (ofNodes nodes width).roundedScale =
      (if (ofNodes nodes width).maxExtent = 0 then 1
      else ⌈((ofNodes nodes width).maxExtent : ℚ) / 10 ^ ((ofNodes nodes width).digits - 2)⌉) ∧
    ∃ c : ClosureOperator (Set.Icc (0 : Int) Time.most),
      ∀ e, (c e : Int) = (ofExtent e width).axisMax := by
  have h₀ := extent_nonneg nodes
  have hm := extent_le_most nodes
  refine ⟨isGreatest_extent nodes, inRange_ofExtent h₀ hm width, digitCount_eq_length _,
    isEndOf_axisMax h₀ width, roundedScale_eq h₀ width, exists_closureOperator width⟩

end Waterfall.Axis
