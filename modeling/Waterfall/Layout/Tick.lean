import Waterfall.Layout.Axis
import Waterfall.Number.Decade

/-!
# Ticks

Ticks stand at multiples of a round step: one, two, five or ten times the power of ten below the
axis divided by the wanted count, whichever is nearest on a logarithmic scale. They go on until a
multiple lies beyond the end of the axis; the multiples are counted in 32 bits.

The step and the values are stated for any arithmetic (`TickScale`): doubles, which the layout uses,
and exact fractions.
-/

namespace Waterfall

/-- The arithmetic of ticks. -/
class TickScale (α : Type) extends Add α, Mul α, Div α where
  ofInt : Int → α
  lt : α → α → Bool
  /-- Whether a value is at least the square root of a whole number. -/
  reachesRoot : α → Nat → Bool
  /-- The whole part of the logarithm to base ten. -/
  decade : α → Int
  tenPower : Int → α
  /-- How far beyond the end a tick may lie, in steps. -/
  slack : α

instance : TickScale Float where
  ofInt := doubleOfInt
  lt x y := x < y
  reachesRoot x n := Float.sqrt (doubleOfInt n) ≤ x
  decade := Waterfall.decade
  tenPower := Waterfall.tenPower
  slack := 1e-9

instance : TickScale Rat where
  ofInt n := n
  lt x y := x < y
  reachesRoot x n := 0 ≤ x && n ≤ x * x
  decade x := magnitude x.num.toNat x.den
  tenPower k := if 0 ≤ k then tenTo k.toNat else 1 / tenTo (-k).toNat
  slack := 1 / tenTo 9

namespace Tick

variable {α : Type} [TickScale α]

/-- The factor that brings a power of ten nearest to the wanted step. -/
def factor (ratio : α) : Int :=
  if TickScale.reachesRoot ratio 50 then 10
  else if TickScale.reachesRoot ratio 10 then 5
  else if TickScale.reachesRoot ratio 2 then 2
  else 1

/-- The distance of ticks when about `count` of them are wanted. -/
def step (span : α) (count : Nat) : α :=
  let raw := span / TickScale.ofInt count
  let power := TickScale.tenPower (TickScale.decade raw)
  TickScale.ofInt (factor (raw / power)) * power

/-- The end of the axis, with some slack for rounding. -/
def bound (span step : α) : α := span + step * TickScale.slack

/-- The multiples of the step from the `i`-th on that do not lie beyond the bound, as far as the
counter goes. -/
def multiplesFrom (step bound : α) : Nat → Nat → List α
  | 0, _ => []
  | counter + 1, i =>
    let value := step * TickScale.ofInt i
    -- Multiples, not sums: the error of a value does not grow from tick to tick.
    if TickScale.lt bound value then [] else value :: multiplesFrom step bound counter (i + 1)

/-- How many multiples the counter can tell apart. -/
def counterRange : Nat := twoTo 32

/-- The values of the ticks. A count of zero counts as one. -/
def values (span : α) (count : Nat) : List α :=
  let s := step span (max count 1)
  multiplesFrom s (bound span s) counterRange 0

end Tick

/-- A tick: its time, its pixel and its label. -/
structure Tick where
  value : Float
  x : Float32
  label : String

namespace Axis

/-- The places after the point that a step needs. -/
def labelPlaces (step : Float) : Nat := if 1 ≤ step then 0 else (-decade step).toNat

/-- The tick at a value. -/
def tickAt (a : Axis) (places : Nat) (value : Float) : Tick where
  value
  x := narrow (value * widen a.width / doubleOfInt a.axisMax)
  label := .ofList ((Binary.ofFloat value).fixed places)

/-- The ticks of an axis when about `count` of them are wanted. -/
def ticks (a : Axis) (count : Nat) : List Tick :=
  let span := doubleOfInt a.axisMax
  (Tick.values span count).map (a.tickAt (labelPlaces (Tick.step span (max count 1))))

end Axis

end Waterfall
