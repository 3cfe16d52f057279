import Waterfall.Number.Shortest

/-!
# Shortest texts of whole numbers

A number `m · 2^e` whose neighbours are far apart is written with zeros at its end. Its text is then that
of a whole number, and that number lies in the interval of all that round to `m · 2^e`
(`exists_text_eq_ofNat`).

The search goes down from the grid of the leading digit. It cannot pass a grid that is finer than the
interval is wide, since one of the two neighbours on that grid has to lie inside; so it ends on a grid of
whole numbers, with digits that are not all zero.
-/

namespace Waterfall

/-! ## Digits -/

theorem tenTo_add (j k : Nat) : tenTo (j + k) = tenTo j * tenTo k := Nat.pow_add 10 j k

namespace Digits

theorem count_le {n k : Nat} (h : n < tenTo (k + 1)) : count n ≤ k + 1 := by
  induction k generalizing n with
  | zero =>
    have hlt : n < 10 := h
    simp [count, ofNat, hlt]
  | succ k ih =>
    rw [tenTo_succ] at h
    rw [count, ofNat]
    split
    · simp
    · have := ih (n := n / 10) (by omega)
      rw [count] at this
      simpa using this

theorem lt_count {n k : Nat} (h : tenTo k ≤ n) : k < count n := by
  induction k generalizing n with
  | zero =>
    rw [count, ofNat]
    split <;> simp
  | succ k ih =>
    have hstep : tenTo (k + 1) = tenTo k * 10 := tenTo_succ _
    have hpos := tenTo_pos k
    have := ih (n := n / 10) (by omega)
    rw [count] at this
    rw [count, ofNat, if_neg (by omega)]
    simpa using this

/-- A number is below the powers of ten that have more digits. -/
theorem lt_tenTo {n k : Nat} (h : count n ≤ k) : n < tenTo k := by
  refine Nat.lt_of_not_le fun hle => ?_
  have := lt_count hle
  omega

/-- A number is no smaller than the powers of ten that have no more digits. -/
theorem tenTo_le {n k : Nat} (h : k + 1 < count n) : tenTo (k + 1) ≤ n := by
  refine Nat.le_of_not_lt fun hlt => ?_
  have := count_le hlt
  omega

/-- Zeros at the end are written as such. -/
theorem ofNat_mul_tenTo {n : Nat} (hn : n ≠ 0) (k : Nat) :
    ofNat (n * tenTo k) = ofNat n ++ List.replicate k '0' := by
  induction k with
  | zero => simp [tenTo]
  | succ k ih =>
    have hpos : 0 < n * tenTo k := Nat.mul_pos (Nat.pos_of_ne_zero hn) (tenTo_pos k)
    have hzero : char (n * tenTo k * 10) = '0' := by
      simp [char]
    rw [tenTo_succ, ← Nat.mul_assoc, ofNat, if_neg (by omega), Nat.mul_div_cancel _ (by decide), ih, hzero,
      List.replicate_succ', List.append_assoc]

end Digits

namespace Shortest

/-! ## The search -/

/-- One number is not beyond another, or not even at it. -/
def Reaches (closed : Bool) (a b : Nat) : Prop := if closed then a ≤ b else a < b

/-- A number lies between two ends, which count when the interval is closed. -/
def Within (closed : Bool) (lo hi w : Nat) : Prop := Reaches closed lo w ∧ Reaches closed w hi

theorem reaches_of_lt {closed : Bool} {a b : Nat} (h : a < b) : Reaches closed a b := by
  cases closed
  · exact h
  · exact Nat.le_of_lt h

theorem reaches_decide_iff {p : Prop} [Decidable p] {a b : Nat} :
    Reaches (decide p) a b ↔ if p then a ≤ b else a < b := by
  simp [Reaches]

theorem le_of_reaches {closed : Bool} {a b : Nat} (h : Reaches closed a b) : a ≤ b := by
  cases closed
  · exact Nat.le_of_lt h
  · exact h

/-- What is found on a grid is one of the two neighbours, and it has the end on its side in reach. -/
theorem onGrid_cases (num den lo hi : Nat) (closed : Bool) (tie : Tie) :
    (onGrid num den lo hi closed tie = none ∧ ¬Reaches closed lo (num / den * den) ∧
      ¬Reaches closed ((num / den + 1) * den) hi) ∨
    (onGrid num den lo hi closed tie = some (num / den) ∧ Reaches closed lo (num / den * den)) ∨
    (onGrid num den lo hi closed tie = some (num / den + 1) ∧
      Reaches closed ((num / den + 1) * den) hi) := by
  have heither := roundDiv_eq_or num den tie
  cases closed <;> simp only [onGrid, Reaches] <;> grind

/-- What is found on a grid lies in the interval. -/
theorem within_of_onGrid {num den lo hi d : Nat} {closed : Bool} {tie : Tie} (hden : 0 < den)
    (hlo : lo < num) (hhi : num < hi) (h : onGrid num den lo hi closed tie = some d) :
    Within closed lo hi (d * den) := by
  have hbelow : num / den * den ≤ num := Nat.div_mul_le_self num den
  have habove : num < (num / den + 1) * den := by
    rw [Nat.mul_comm]
    exact Nat.lt_mul_div_succ num hden
  rcases onGrid_cases num den lo hi closed tie with ⟨hnone, -⟩ | ⟨hsome, hreach⟩ | ⟨hsome, hreach⟩
  · rw [hnone] at h
    cases h
  · obtain rfl := Option.some.inj (hsome.symm.trans h)
    exact ⟨hreach, reaches_of_lt (by omega)⟩
  · obtain rfl := Option.some.inj (hsome.symm.trans h)
    exact ⟨reaches_of_lt (by omega), hreach⟩

/-- On a grid finer than the interval something is found. -/
theorem onGrid_ne_none {num den lo hi : Nat} {closed : Bool} {tie : Tie} (hfine : lo + den < hi) :
    onGrid num den lo hi closed tie ≠ none := by
  intro h
  have hnext : (num / den + 1) * den = num / den * den + den := Nat.succ_mul _ _
  rcases onGrid_cases num den lo hi closed tie with ⟨-, hbelow, habove⟩ | ⟨hsome, -⟩ | ⟨hsome, -⟩
  · have hlow : num / den * den ≤ lo := Nat.not_lt.mp fun hlt => hbelow (reaches_of_lt hlt)
    have hhigh : hi ≤ (num / den + 1) * den := Nat.not_lt.mp fun hlt => habove (reaches_of_lt hlt)
    omega
  · cases hsome.symm.trans h
  · cases hsome.symm.trans h

section Search

variable {value lo hi : Nat} {e : Int}

theorem scaled_of_nonneg (he : 2 ≤ e) (k : Nat) :
    scaled value lo hi e k = (value * twoTo (e - 2).toNat, tenTo k, lo * twoTo (e - 2).toNat,
      hi * twoTo (e - 2).toNat) := by
  simp [scaled, quotient, he]

/-- The search ends at the latest on the grid `10^g` that is finer than the interval, with a number that
lies inside. -/
theorem exists_search_eq (closed : Bool) (tie : Tie) (hlo : lo < value) (hhi : value < hi) (he : 2 ≤ e)
    {g : Nat} (hfine : lo * twoTo (e - 2).toNat + tenTo g < hi * twoTo (e - 2).toNat) {fuel k : Nat}
    (hk : g ≤ k) (hfuel : k < g + fuel) :
    ∃ d j : Nat, search value lo hi e closed tie fuel k = ⟨d, j⟩ ∧
      Within closed (lo * twoTo (e - 2).toNat) (hi * twoTo (e - 2).toNat) (d * tenTo j) := by
  have hunit := twoTo_pos (e - 2).toNat
  have hlo' := Nat.mul_lt_mul_of_pos_right hlo hunit
  have hhi' := Nat.mul_lt_mul_of_pos_right hhi hunit
  induction fuel generalizing k with
  | zero => omega
  | succ fuel ih =>
    simp only [search, scaled_of_nonneg he]
    split
    · next d hfound => exact ⟨d, k, rfl, within_of_onGrid (tenTo_pos k) hlo' hhi' hfound⟩
    · next hnone =>
      have hlater : k ≠ g := by
        rintro rfl
        exact onGrid_ne_none hfine hnone
      obtain ⟨k, rfl⟩ : ∃ k', k = k' + 1 := ⟨k - 1, by omega⟩
      rw [show ((k + 1 : Nat) : Int) - 1 = k by omega]
      exact ih (by omega) (by omega)

end Search

/-! ## The text -/

/-- Zeros go from the digits into the exponent. -/
theorem trim_spec (fuel d : Nat) (j : Int) :
    ∃ d' i : Nat, trim fuel ⟨d, j⟩ = ⟨d', j + i⟩ ∧ d' * tenTo i = d := by
  induction fuel generalizing d j with
  | zero => exact ⟨d, 0, by simp [trim], Nat.mul_one d⟩
  | succ fuel ih =>
    rw [trim]
    split
    · next hzero =>
      obtain ⟨-, hzero⟩ := hzero
      obtain ⟨d', i, htrim, hvalue⟩ := ih (d / 10) (j + 1)
      refine ⟨d', i + 1, ?_, ?_⟩
      · rw [htrim]
        congr 1
        omega
      · calc d' * tenTo (i + 1) = d' * tenTo i * 10 := by rw [tenTo_succ, Nat.mul_assoc]
          _ = d / 10 * 10 := by rw [hvalue]
          _ = d := Nat.div_mul_cancel (Nat.dvd_of_mod_eq_zero hzero)
    · exact ⟨d, 0, by simp, Nat.mul_one d⟩

theorem writeDecimal_plain {d : Nat} (hd : d ≠ 0) (j : Nat) :
    writeDecimal .plain ⟨d, j⟩ = Digits.ofNat (d * tenTo j) := by
  rw [Digits.ofNat_mul_tenTo hd]
  simp [writeDecimal, Style.plain, positional]

theorem magnitude_one {n : Nat} (hn : 0 < n) : magnitude n 1 = (Digits.count n - 1 : Nat) := by
  have hcount : 0 < Digits.count n := Digits.lt_count hn
  rw [magnitude, if_pos (show 1 ≤ n from hn), Nat.div_one]
  omega

/-- The upper end of the interval is two quarters away, and the lower end one or two. -/
theorem exists_interval_eq {m : Nat} (hm : 0 < m) (p : Precision) (e : Int) :
    ∃ lo, interval p m e = (4 * m, lo, 4 * m + 2) ∧ 4 * m ≤ lo + 2 ∧ lo < 4 * m := by
  simp only [interval]
  split
  · exact ⟨_, rfl, by omega, by omega⟩
  · exact ⟨_, rfl, by omega, by omega⟩

/-- The shortest decimal of a number among far neighbours is a whole number in its interval, which is closed
for an even mantissa. -/
theorem exists_ofMantissa_eq {m : Nat} {e : Int} {g : Nat} (p : Precision) (tie : Tie) (hm : 0 < m)
    (he : 2 ≤ e) (hfine : tenTo g < 3 * twoTo (e - 2).toNat) (hleast : tenTo g ≤ m * twoTo e.toNat)
    (hmost : m * twoTo e.toNat < tenTo (g + 18)) :
    ∃ d j : Nat, ofMantissa p tie m e = ⟨d, j⟩ ∧ d ≠ 0 ∧
      Within (m % 2 = 0) ((interval p m e).2.1 * twoTo (e - 2).toNat)
        ((interval p m e).2.2 * twoTo (e - 2).toNat) (d * tenTo j) := by
  obtain ⟨lo, hinterval, hlow, hlo⟩ := exists_interval_eq hm p e
  rw [hinterval]
  have hunit := twoTo_pos (e - 2).toNat
  have hvalue : 0 < m * twoTo e.toNat := Nat.mul_pos hm (twoTo_pos _)
  have hquotient : quotient m e = (m * twoTo e.toNat, 1) := by
    rw [quotient, if_pos (by omega)]
  -- The ends are three quarters apart or more, which is where the grid `10^g` fits in.
  have hwide : lo * twoTo (e - 2).toNat + tenTo g < (4 * m + 2) * twoTo (e - 2).toNat := by
    have := Nat.mul_le_mul_right (twoTo (e - 2).toNat) (show lo + 3 ≤ 4 * m + 2 by omega)
    rw [Nat.add_mul] at this
    omega
  have hstart : g ≤ Digits.count (m * twoTo e.toNat) - 1 := by
    have := Digits.lt_count hleast
    omega
  have hend : Digits.count (m * twoTo e.toNat) - 1 < g + 18 := by
    have := Digits.count_le hmost
    omega
  obtain ⟨d, j, hsearch, hwithin⟩ := exists_search_eq (m % 2 = 0) tie hlo
    (show 4 * m < 4 * m + 2 by omega) he hwide hstart hend
  obtain ⟨d', i, htrim, hsame⟩ := trim_spec 18 d j
  have hvalue' : d' * tenTo (j + i) = d * tenTo j := by
    rw [tenTo_add, ← hsame]
    ac_rfl
  refine ⟨d', j + i, ?_, ?_, hvalue' ▸ hwithin⟩
  · simp only [ofMantissa, hinterval, hquotient, magnitude_one hvalue, hsearch, htrim, Int.natCast_add]
  · -- Zero is below the interval, so the search did not end with it.
    rintro rfl
    have hzero : d * tenTo j = 0 := by omega
    have hreach := le_of_reaches hwithin.1
    have hpos : 0 < lo * twoTo (e - 2).toNat := Nat.mul_pos (by omega) hunit
    omega

/-- **The text of a double among far neighbours** is that of a whole number which rounds to it: a number
in its interval, closed for an even mantissa. -/
theorem exists_text_eq_ofNat {m : Nat} {e : Int} {g : Nat} (hm : 0 < m) (he : 2 ≤ e)
    (hfine : tenTo g < 3 * twoTo (e - 2).toNat) (hleast : tenTo g ≤ m * twoTo e.toNat)
    (hmost : m * twoTo e.toNat < tenTo (g + 18)) :
    ∃ w, text .plain .double (.finite false m e) = Digits.ofNat w ∧
      Within (m % 2 = 0) ((interval .double m e).2.1 * twoTo (e - 2).toNat)
        ((interval .double m e).2.2 * twoTo (e - 2).toNat) w := by
  obtain ⟨d, j, hmantissa, hd, hwithin⟩ :=
    exists_ofMantissa_eq .double Style.plain.tie hm he hfine hleast hmost
  refine ⟨d * tenTo j, ?_, hwithin⟩
  simp [text, Nat.ne_of_gt hm, hmantissa, writeDecimal_plain hd]

end Shortest

end Waterfall
