import Waterfall.Trace.Calendar

/-!
# Timestamps

Milliseconds since the epoch as a date and a time of day in UTC. Dates exist from the year -262143
to the year 262142; a time outside of them is written as its number.
-/

namespace Waterfall

/-- A point in time, split into a date and a time of day. -/
structure Timestamp where
  date : Date
  hour : Int
  minute : Int
  second : Int
  milli : Int
  deriving DecidableEq, Repr

namespace Timestamp

def millisPerDay : Int := 86400000

/-- The first and the last millisecond of the dates that exist. -/
def earliest : Int := -8334601228800000

def latest : Int := 8210266876799999

/-- The timestamp of a time, if it has a date. -/
def ofMillis? (time : Int) : Option Timestamp :=
  if earliest ≤ time ∧ time ≤ latest then
    -- Both remainders are never negative, so times before the epoch need no case of their own.
    let rest := time % millisPerDay
    some {
      date := .ofDays (time / millisPerDay)
      hour := rest / 3600000
      minute := rest / 60000 % 60
      second := rest / 1000 % 60
      milli := rest % 1000 }
  else none

/-- The time of a timestamp. -/
def toMillis (t : Timestamp) : Int :=
  t.date.toDays * millisPerDay + t.hour * 3600000 + t.minute * 60000 + t.second * 1000 + t.milli

/-- A number filled with zeros to a width. -/
def padded (width : Nat) (n : Int) : List Char :=
  let ds := Digits.ofNat n.natAbs
  List.replicate (width - ds.length) '0' ++ ds

/-- A year: four digits, with a sign before the year zero and after the year 9999. -/
def yearText (year : Int) : List Char :=
  if 0 ≤ year ∧ year ≤ 9999 then padded 4 year
  else (if year < 0 then '-' else '+') :: padded 4 year

/-- Minute, second and millisecond. -/
def minuteText (t : Timestamp) : List Char :=
  padded 2 t.minute ++ ':' :: padded 2 t.second ++ '.' :: padded 3 t.milli

/-- The date and the time of day. -/
def text (t : Timestamp) : List Char :=
  yearText t.date.year ++ '-' :: padded 2 t.date.month ++ '-' :: padded 2 t.date.day ++
    ' ' :: padded 2 t.hour ++ ':' :: t.minuteText

end Timestamp

/-- A time written with some form of its timestamp, or as its number where it has no date. -/
def formatTime (form : Timestamp → List Char) (time : Int) : String :=
  match Timestamp.ofMillis? time with
  | some t => .ofList (form t)
  | none => .ofList (Digits.ofInt time)

/-- A time with date and time of day. -/
def formatTimestamp (time : Int) : String := formatTime Timestamp.text time

/-- A time with minute, second and millisecond only. -/
def formatMinute (time : Int) : String := formatTime Timestamp.minuteText time

end Waterfall
