import Waterfall.Number.Decimal

/-!
# Calendar dates

The proleptic Gregorian calendar, as a count of days since 1970-01-01 and as year, month and day.
Years are counted from March inside an era of four hundred years, so that the leap day is the last
day of its year; `Date.ofDays` and `Date.toDays` are the two directions.
-/

namespace Waterfall

structure Date where
  year : Int
  month : Int
  day : Int
  deriving DecidableEq, Repr

namespace Date

/-- The days of an era of four hundred years. -/
def daysPerEra : Int := 146097

/-- The days from 0000-03-01 to 1970-01-01. -/
def epochShift : Int := 719468

/-- The year of an era that a day of the era belongs to. -/
def yearOfEra (day : Int) : Int := (day - day / 1460 + day / 36524 - day / 146096) / 365

/-- The days of an era before one of its years. -/
def daysBeforeYear (year : Int) : Int := 365 * year + year / 4 - year / 100

/-- The days of a year before one of its months, March being month zero. -/
def daysBeforeMonth (month : Int) : Int := (153 * month + 2) / 5

/-- The date of a day. -/
def ofDays (days : Int) : Date :=
  let shifted := days + epochShift
  let era := shifted / daysPerEra
  let day := shifted % daysPerEra
  let year := yearOfEra day
  let dayOfYear := day - daysBeforeYear year
  let month := (5 * dayOfYear + 2) / 153
  { year := year + 400 * era + if month < 10 then 0 else 1
    month := if month < 10 then month + 3 else month - 9
    day := dayOfYear - daysBeforeMonth month + 1 }

/-- The day of a date. -/
def toDays (d : Date) : Int :=
  let year := if d.month ≤ 2 then d.year - 1 else d.year
  let month := if d.month ≤ 2 then d.month + 9 else d.month - 3
  let era := year / 400
  era * daysPerEra + daysBeforeYear (year % 400) + daysBeforeMonth month + d.day - 1 - epochShift

/-- Days are counted from the epoch. -/
theorem ofDays_zero : ofDays 0 = ⟨1970, 1, 1⟩ := by decide

/-- The day before the epoch, and the days around a leap day. -/
example : ofDays (-1) = ⟨1969, 12, 31⟩ ∧ ofDays 11016 = ⟨2000, 2, 29⟩ ∧ ofDays 11017 = ⟨2000, 3, 1⟩ := by
  decide

end Date

end Waterfall
