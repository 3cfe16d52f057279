import Mathlib.Order.Monotone.Basic
import Mathlib.Tactic.IntervalCases
import Waterfall.Trace.Calendar

/-!
# The proleptic Gregorian calendar

`Date.ofDays` finds the date of a day by division. Here the calendar is given by its rules: which years
have a leap day, how long a month is and which date follows which; and `ofDays` is the one way to date
the days by these rules with day zero on 1970-01-01 (`Date.isCalendar_iff`).

A year is found in two steps. In years that begin with March the leap day comes last, so that the days of an
era less its leap days are 365 to the year (`lessLeapDays`). What is left over is the day of the year, and the
lengths of the months from March on are those of `daysBeforeMonth`.
-/

namespace Waterfall

namespace Date

/-! ## The rules -/

/-- A year with a leap day. -/
def IsLeap (year : Int) : Prop :=
  year % 4 = 0 ∧ (year % 100 ≠ 0 ∨ year % 400 = 0)

instance (year : Int) : Decidable (IsLeap year) :=
  inferInstanceAs (Decidable (_ ∧ _))

def monthLength (year month : Int) : Int :=
  if month = 2 then if IsLeap year then 29 else 28
  else if month = 4 ∨ month = 6 ∨ month = 9 ∨ month = 11 then 30
  else 31

structure IsValid (d : Date) : Prop where
  one_le_month : 1 ≤ d.month
  month_le : d.month ≤ 12
  one_le_day : 1 ≤ d.day
  day_le : d.day ≤ monthLength d.year d.month

/-- The day after. -/
def next (d : Date) : Date :=
  if d.day < monthLength d.year d.month then { d with day := d.day + 1 }
  else if d.month < 12 then { d with month := d.month + 1, day := 1 }
  else { year := d.year + 1, month := 1, day := 1 }

/-- An earlier date has an earlier year, or in the same year an earlier month, or in the same month an
earlier day. -/
def Before (d e : Date) : Prop :=
  d.year < e.year ∨ d.year = e.year ∧ (d.month < e.month ∨ d.month = e.month ∧ d.day < e.day)

theorem eq_iff {d e : Date} : d = e ↔ d.year = e.year ∧ d.month = e.month ∧ d.day = e.day := by
  cases d
  cases e
  exact iff_of_eq (Date.mk.injEq ..)

instance : IsTrans Date Before where
  trans _ _ _ hde hef := by
    unfold Before at *
    omega

theorem before_asymm {d e : Date} (h : d.Before e) : ¬ e.Before d := by
  unfold Before at *
  omega

theorem before_next (d : Date) : d.Before d.next := by
  unfold next
  split
  · exact .inr ⟨rfl, .inr ⟨rfl, by dsimp only; omega⟩⟩
  · split
    · exact .inr ⟨rfl, .inl (by dsimp only; omega)⟩
    · exact .inl (by dsimp only; omega)

theorem one_le_monthLength (year month : Int) : 1 ≤ monthLength year month := by
  unfold monthLength
  split
  · split <;> decide
  · split <;> decide

theorem monthLength_le (year month : Int) : monthLength year month ≤ 31 := by
  unfold monthLength
  split
  · split <;> decide
  · split <;> decide

theorem february_le (year : Int) : monthLength year 2 ≤ 29 := by
  rw [monthLength, if_pos rfl]
  split <;> decide

theorem IsValid.next {d : Date} (h : d.IsValid) : d.next.IsValid := by
  obtain ⟨hmonth, hmonth', hday, hday'⟩ := h
  unfold Date.next
  split
  · exact ⟨hmonth, hmonth', by dsimp only; omega, by dsimp only; omega⟩
  · split
    · exact ⟨by dsimp only; omega, by dsimp only; omega, Int.le_refl 1, one_le_monthLength _ _⟩
    · exact ⟨Int.le_refl 1, by dsimp only; omega, Int.le_refl 1, one_le_monthLength _ _⟩

/-! ## Years that begin with March -/

/-- The days from 0000-03-01 to the first of March of a year. -/
def yearStart (year : Int) : Int := 365 * year + year / 4 - year / 100 + year / 400

theorem era_add_daysBeforeYear (year : Int) :
    year / 400 * daysPerEra + daysBeforeYear (year % 400) = yearStart year := by
  unfold daysPerEra daysBeforeYear yearStart
  omega

/-- An era later everything is the same. -/
theorem yearStart_add_eras (year era : Int) :
    yearStart (year + 400 * era) = yearStart year + daysPerEra * era := by
  unfold yearStart daysPerEra
  omega

/-- Such a year ends with the leap day of the year after. -/
theorem yearStart_succ (year : Int) :
    yearStart (year + 1) = yearStart year + 337 + monthLength (year + 1) 2 := by
  unfold yearStart monthLength
  by_cases hleap : IsLeap (year + 1) <;> simp only [hleap, if_true, if_false] <;> unfold IsLeap at hleap <;>
    omega

theorem yearStart_mono {year year' : Int} (h : year ≤ year') : yearStart year ≤ yearStart year' := by
  have hstep : ∀ year, yearStart year ≤ yearStart (year + 1) := fun year => by
    have := one_le_monthLength (year + 1) 2
    rw [yearStart_succ]
    omega
  exact monotone_int_of_le_succ hstep h

/-- The days of an era, those that end four years, but for centuries, left out. -/
def lessLeapDays (day : Int) : Int := day - day / 1460 + day / 36524 - day / 146096

theorem lessLeapDays_mono {day day' : Int} (h : day ≤ day') : lessLeapDays day ≤ lessLeapDays day' := by
  have hstep : ∀ day, lessLeapDays day ≤ lessLeapDays (day + 1) := fun day => by
    unfold lessLeapDays
    omega
  exact monotone_int_of_le_succ hstep h

/-- At the ends of the years of an era. -/
theorem lessLeapDays_yearStart : ∀ year : Fin 400,
    365 * (year.1 : Int) ≤ lessLeapDays (yearStart year.1) ∧
      lessLeapDays (yearStart (year.1 + 1) - 1) < 365 * (year.1 + 1) := by
  decide +kernel

theorem yearOfEra_bounds {day : Int} (h : 0 ≤ day) (hday : day < daysPerEra) :
    0 ≤ yearOfEra day ∧ yearOfEra day < 400 := by
  unfold daysPerEra at hday
  unfold yearOfEra
  omega

/-- Each year of an era starts where the days less leap days reach another 365. -/
theorem le_lessLeapDays {year : Int} (h : 0 ≤ year) (hyear : year < 400) :
    365 * year ≤ lessLeapDays (yearStart year) ∧
      lessLeapDays (yearStart (year + 1) - 1) < 365 * (year + 1) := by
  have hends := lessLeapDays_yearStart ⟨year.toNat, by omega⟩
  simpa [Int.toNat_of_nonneg h] using hends

/-- A day is in the year that is found for it. -/
theorem yearStart_yearOfEra {day : Int} (h : 0 ≤ day) (hday : day < daysPerEra) :
    yearStart (yearOfEra day) ≤ day ∧ day < yearStart (yearOfEra day + 1) := by
  obtain ⟨hyear, hyear'⟩ := yearOfEra_bounds h hday
  have hquotient : yearOfEra day = lessLeapDays day / 365 := rfl
  -- Outside of these bounds the days less leap days would belong to another year.
  constructor
  · by_contra hlt
    have hpositive : yearOfEra day ≠ 0 := fun hzero => by
      rw [hzero] at hlt
      exact hlt h
    have hbefore := (le_lessLeapDays (show 0 ≤ yearOfEra day - 1 by omega) (by omega)).2
    have hmono := lessLeapDays_mono (show day ≤ yearStart (yearOfEra day) - 1 by omega)
    rw [Int.sub_add_cancel] at hbefore
    omega
  · by_contra hge
    by_cases hlast : yearOfEra day = 399
    · rw [hlast] at hge
      exact hge hday
    · have hafter := (le_lessLeapDays (show 0 ≤ yearOfEra day + 1 by omega) (by omega)).1
      have hmono := lessLeapDays_mono (show yearStart (yearOfEra day + 1) ≤ day by omega)
      omega

/-! ## Dates in such years -/

/-- The year that begins with March to which a date belongs. -/
def marchYear (d : Date) : Int := if d.month ≤ 2 then d.year - 1 else d.year

/-- The month of a date, March being month zero. -/
def marchMonth (d : Date) : Int := if d.month ≤ 2 then d.month + 9 else d.month - 3

/-- The days since the first of March. -/
def dayOfYear (d : Date) : Int := daysBeforeMonth d.marchMonth + d.day - 1

theorem toDays_eq (d : Date) : d.toDays = yearStart d.marchYear + d.dayOfYear - epochShift := by
  rw [← era_add_daysBeforeYear]
  unfold toDays marchYear dayOfYear marchMonth
  dsimp only
  omega

variable {d e : Date}

namespace IsValid

/-- From March on, the months are as long as they are counted, but for February, which is shorter. -/
theorem day_le_count (h : d.IsValid) :
    0 ≤ d.marchMonth ∧ d.marchMonth ≤ 11 ∧
      d.day ≤ daysBeforeMonth (d.marchMonth + 1) - daysBeforeMonth d.marchMonth := by
  obtain ⟨year, month, day⟩ := d
  obtain ⟨hmonth, hmonth', -, hday⟩ := h
  dsimp only at hmonth hmonth'
  have hfebruary := february_le year
  interval_cases month <;> simp [monthLength, marchMonth, daysBeforeMonth] at hday hfebruary ⊢ <;> omega

/-- A date is in its year, which ends with February. -/
theorem dayOfYear_bounds (h : d.IsValid) :
    0 ≤ d.dayOfYear ∧ yearStart d.marchYear + d.dayOfYear < yearStart (d.marchYear + 1) := by
  have hlength := one_le_monthLength (d.marchYear + 1) 2
  obtain ⟨hmarch, hmarch', hcount⟩ := h.day_le_count
  have hday := h.one_le_day
  have hyear := h.month_le
  rw [yearStart_succ]
  by_cases hfebruary : d.month = 2
  · have hday' := h.day_le
    rw [hfebruary] at hday'
    simp only [dayOfYear, marchYear, marchMonth, daysBeforeMonth, hfebruary, Int.le_refl, if_true,
      Int.sub_add_cancel]
    omega
  · have hmonth : d.marchMonth ≠ 11 := by
      unfold marchMonth
      split <;> omega
    unfold dayOfYear
    unfold daysBeforeMonth at *
    omega

end IsValid

/-- The date of a day of a year. -/
def ofMarch (year dayOfYear : Int) : Date :=
  let month := (5 * dayOfYear + 2) / 153
  { year := year + if month < 10 then 0 else 1
    month := if month < 10 then month + 3 else month - 9
    day := dayOfYear - daysBeforeMonth month + 1 }

/-- The month is found from the day of the year. -/
theorem monthOfYear_eq {month day : Int} (h : 0 ≤ month) (hmonth : month ≤ 11) (hday : 1 ≤ day)
    (hday' : day ≤ daysBeforeMonth (month + 1) - daysBeforeMonth month) :
    (5 * (daysBeforeMonth month + day - 1) + 2) / 153 = month := by
  unfold daysBeforeMonth at *
  -- The lengths of the months follow no rule but this one, so each month is tried.
  interval_cases month <;> omega

theorem IsValid.ofMarch_eq (h : d.IsValid) : ofMarch d.marchYear d.dayOfYear = d := by
  obtain ⟨hmarch, hmarch', hcount⟩ := h.day_le_count
  have hmonth := h.one_le_month
  have hmonth' := h.month_le
  unfold ofMarch dayOfYear
  simp only [monthOfYear_eq hmarch hmarch' h.one_le_day hcount]
  change _ = Date.mk d.year d.month d.day
  simp only [Date.mk.injEq]
  refine ⟨?_, ?_, by omega⟩
  · unfold marchYear marchMonth
    split <;> split <;> omega
  · unfold marchMonth
    split <;> split <;> omega

section OfMarch

variable {year dayOfYear : Int} (h : 0 ≤ dayOfYear) (hday : yearStart year + dayOfYear < yearStart (year + 1))

include h hday

theorem marchMonth_ofMarch : (ofMarch year dayOfYear).marchMonth = (5 * dayOfYear + 2) / 153 := by
  have hlength := february_le (year + 1)
  rw [yearStart_succ] at hday
  unfold marchMonth ofMarch
  dsimp only
  split <;> split at * <;> omega

theorem marchYear_ofMarch : (ofMarch year dayOfYear).marchYear = year := by
  have hlength := february_le (year + 1)
  rw [yearStart_succ] at hday
  unfold marchYear ofMarch
  dsimp only
  split <;> split at * <;> omega

theorem dayOfYear_ofMarch : (ofMarch year dayOfYear).dayOfYear = dayOfYear := by
  rw [Date.dayOfYear, marchMonth_ofMarch h hday]
  simp only [ofMarch]
  omega

theorem ofMarch_isValid : (ofMarch year dayOfYear).IsValid := by
  have hlength := february_le (year + 1)
  rw [yearStart_succ] at hday
  unfold ofMarch
  generalize hmonth : (5 * dayOfYear + 2) / 153 = month
  have hstart : 0 ≤ month := by omega
  have hend : month ≤ 11 := by omega
  refine ⟨?_, ?_, ?_, ?_⟩
  · dsimp only
    split <;> omega
  · dsimp only
    split <;> omega
  · unfold daysBeforeMonth
    dsimp only
    omega
  · interval_cases month <;> simp [monthLength, daysBeforeMonth] at hday ⊢ <;> omega

end OfMarch

/-! ## Days to dates -/

/-- The year, beginning with March, that is found for a day. -/
def foundYear (days : Int) : Int :=
  yearOfEra ((days + epochShift) % daysPerEra) + 400 * ((days + epochShift) / daysPerEra)

theorem foundYear_bounds (days : Int) :
    yearStart (foundYear days) ≤ days + epochShift ∧ days + epochShift < yearStart (foundYear days + 1) := by
  have hday : 0 ≤ (days + epochShift) % daysPerEra := Int.emod_nonneg _ (by decide)
  have hday' : (days + epochShift) % daysPerEra < daysPerEra := Int.emod_lt_of_pos _ (by decide)
  obtain ⟨hstart, hend⟩ := yearStart_yearOfEra hday hday'
  have hsplit := Int.mul_ediv_add_emod (days + epochShift) daysPerEra
  rw [foundYear, Int.add_right_comm, yearStart_add_eras, yearStart_add_eras]
  omega

/-- A day is in one year only. -/
theorem year_unique {days year year' : Int} (h : yearStart year ≤ days ∧ days < yearStart (year + 1))
    (h' : yearStart year' ≤ days ∧ days < yearStart (year' + 1)) : year = year' := by
  rcases lt_trichotomy year year' with hlt | heq | hgt
  · have := yearStart_mono (show year + 1 ≤ year' by omega)
    omega
  · exact heq
  · have := yearStart_mono (show year' + 1 ≤ year by omega)
    omega

theorem ofDays_eq (days : Int) :
    ofDays days = ofMarch (foundYear days) (days + epochShift - yearStart (foundYear days)) := by
  have hsplit := Int.mul_ediv_add_emod (days + epochShift) daysPerEra
  have hbounds := yearOfEra_bounds (Int.emod_nonneg (days + epochShift) (by decide : daysPerEra ≠ 0))
    (Int.emod_lt_of_pos _ (by decide))
  -- The day of the year is that of the era.
  have hrest : (days + epochShift) % daysPerEra -
      daysBeforeYear (yearOfEra ((days + epochShift) % daysPerEra)) =
        days + epochShift - yearStart (foundYear days) := by
    rw [foundYear, yearStart_add_eras]
    unfold yearStart daysBeforeYear
    omega
  rw [← hrest]
  rfl

/-- A date is found again from its day. -/
theorem ofDays_toDays (h : d.IsValid) : ofDays d.toDays = d := by
  have hshifted : d.toDays + epochShift = yearStart d.marchYear + d.dayOfYear := by
    rw [toDays_eq]
    omega
  obtain ⟨hday, hday'⟩ := h.dayOfYear_bounds
  have hyear : foundYear d.toDays = d.marchYear :=
    year_unique (foundYear_bounds _) (by omega)
  rw [ofDays_eq, hyear, show d.toDays + epochShift - yearStart d.marchYear = d.dayOfYear by omega,
    h.ofMarch_eq]

/-- A day is found again from its date, which is one. -/
theorem toDays_ofDays (days : Int) : (ofDays days).toDays = days := by
  obtain ⟨hstart, hend⟩ := foundYear_bounds days
  rw [ofDays_eq, toDays_eq, marchYear_ofMarch (by omega) (by omega),
    dayOfYear_ofMarch (by omega) (by omega)]
  omega

theorem ofDays_isValid (days : Int) : (ofDays days).IsValid := by
  obtain ⟨hstart, hend⟩ := foundYear_bounds days
  rw [ofDays_eq]
  exact ofMarch_isValid (by omega) (by omega)

/-! ## Day by day -/

theorem IsValid.toDays_next (h : d.IsValid) : d.next.toDays = d.toDays + 1 := by
  obtain ⟨year, month, day⟩ := d
  obtain ⟨hmonth, hmonth', -, hday⟩ := h
  have hyear := yearStart_succ (year - 1)
  rw [Int.sub_add_cancel] at hyear
  dsimp only at hmonth hmonth' hday
  simp only [toDays_eq, Date.next]
  split
  · unfold marchYear dayOfYear marchMonth
    dsimp only
    omega
  -- On the last of a month it is the first of the next, which is in another year from February to March.
  · interval_cases month <;>
      simp [monthLength, marchYear, marchMonth, dayOfYear, daysBeforeMonth] at * <;> omega

/-- The day after a day has the date after its date. -/
theorem ofDays_add_one (days : Int) : ofDays (days + 1) = (ofDays days).next := by
  have hvalid := ofDays_isValid days
  rw [← ofDays_toDays hvalid.next, hvalid.toDays_next, toDays_ofDays]

/-- The days dated by the rules, day zero being the first of 1970. -/
structure IsCalendar (date : Int → Date) : Prop where
  epoch : date 0 = ⟨1970, 1, 1⟩
  valid : ∀ day, (date day).IsValid
  next : ∀ day, date (day + 1) = (date day).next

theorem isCalendar_ofDays : IsCalendar ofDays where
  epoch := ofDays_zero
  valid := ofDays_isValid
  next := ofDays_add_one

theorem IsCalendar.toDays_eq {date : Int → Date} (h : IsCalendar date) (day : Int) :
    (date day).toDays = day := by
  induction day using Int.induction_on with
  | zero => rw [h.epoch]; decide
  | succ day ih => rw [h.next, (h.valid _).toDays_next, ih]
  | pred day ih =>
    have hstep := (h.valid (-day - 1)).toDays_next
    rw [← h.next, Int.sub_add_cancel, ih] at hstep
    omega

/-- **The dates of days are those of the proleptic Gregorian calendar**: there is no other way to date the
days by its rules. -/
theorem isCalendar_iff {date : Int → Date} : IsCalendar date ↔ date = ofDays := by
  refine ⟨fun h => ?_, fun h => h ▸ isCalendar_ofDays⟩
  funext day
  rw [← ofDays_toDays (h.valid day), h.toDays_eq]

/-- Earlier days have earlier dates. -/
theorem before_ofDays_iff (days days' : Int) : (ofDays days).Before (ofDays days') ↔ days < days' := by
  have hnext : ∀ day, (ofDays day).Before (ofDays (day + 1)) := fun day => by
    rw [ofDays_add_one]
    exact before_next _
  have hlt := Int.rel_of_forall_rel_succ_of_lt Before hnext
  refine ⟨fun h => ?_, fun h => hlt h⟩
  rcases lt_trichotomy days days' with hlt' | rfl | hgt
  · exact hlt'
  · exact absurd h (before_asymm h)
  · exact absurd h (before_asymm (hlt hgt))

theorem year_ofDays_mono {days days' : Int} (h : days ≤ days') :
    (ofDays days).year ≤ (ofDays days').year := by
  rcases Int.lt_or_eq_of_le h with hlt | rfl
  · rcases (before_ofDays_iff days days').mpr hlt with hyear | ⟨hyear, -⟩
    · exact Int.le_of_lt hyear
    · exact Int.le_of_eq hyear
  · exact Int.le_refl _

/-- After the last day of a year come the days of later years. -/
theorem year_ofDays_le_iff {last days : Int} (hlast : (ofDays last).year < (ofDays (last + 1)).year) :
    (ofDays days).year ≤ (ofDays last).year ↔ days ≤ last := by
  refine ⟨fun h => ?_, year_ofDays_mono⟩
  by_contra hlater
  have := year_ofDays_mono (show last + 1 ≤ days by omega)
  omega

end Date

end Waterfall
