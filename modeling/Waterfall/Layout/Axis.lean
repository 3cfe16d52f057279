import Waterfall.Layout.Node
import Waterfall.Number.Binary

/-!
# The time axis

The axis runs from the start of the trace to its extent, rounded up to two significant digits. Where
the rounded bound does not fit the range of times the extent itself is the end, and an axis is at
least one millisecond long.
-/

namespace Waterfall

structure Axis where
  /-- The latest end of a node. -/
  maxExtent : Int
  /-- The decimal digits of the extent. -/
  digits : Nat
  /-- The end of the axis in units of its second significant digit. -/
  roundedScale : Int
  /-- The end of the axis. -/
  axisMax : Int
  /-- The width in pixels. -/
  width : Float32

namespace Axis

/-- The decimal digits of a natural number. -/
def digitCount (n : Nat) : Nat := if n < 10 then 1 else digitCount (n / 10) + 1
termination_by n

/-- The latest end of a node, at least zero. -/
def extent (nodes : List Node) : Int := nodes.foldl (fun e n => max e n.endOffset) 0

/-- The unit of the second significant digit. -/
def unit (digits : Nat) : Int := tenTo (digits - 2)

/-- An extent in whole units, rounded up. -/
def unitsUp (extent unit : Int) : Int := extent / unit + if extent % unit ≠ 0 then 1 else 0

/-- The axis of a given extent and width. -/
def ofExtent (extent : Int) (width : Float32) : Axis :=
  let digits := digitCount extent.toNat
  let scale := unitsUp extent (unit digits)
  let bound := scale * unit digits
  -- The extent fits the range of times, its rounding need not.
  let axisMax := if bound ≤ Time.most then bound else extent
  { maxExtent := extent
    digits
    roundedScale := if axisMax < 1 then 1 else scale
    axisMax := if axisMax < 1 then 1 else axisMax
    width := larger width 0 }

/-- The axis for some nodes; a width below zero counts as zero. -/
def ofNodes (nodes : List Node) (width : Float32) : Axis := ofExtent (extent nodes) width

/-- The pixel of a time, computed in double precision. -/
def toPixel (a : Axis) (time : Int) : Float32 :=
  narrow (doubleOfInt time * widen a.width / doubleOfInt a.axisMax)

/-- An axis is at least one millisecond long. -/
theorem one_le_axisMax (extent : Int) (width : Float32) : 1 ≤ (ofExtent extent width).axisMax := by
  simp only [ofExtent]
  split <;> omega

end Axis

end Waterfall
