import Waterfall.Number.Binary
import Waterfall.Theme

/-!
# Settings

The measures of the layout, the policy for further roots, and the settings as a whole with their
defaults. Lengths are pixels in single precision.
-/

namespace Waterfall

/-- What to do with spans other than the first that have no parent. -/
inductive RootPolicy where
  /-- They are laid out as trees of their own, without a connector. -/
  | disconnected
  /-- They make the trace invalid. -/
  | reject
  deriving DecidableEq, Repr

def RootPolicy.name : RootPolicy → String
  | .disconnected => "disconnected"
  | .reject => "reject"

/-- The policies by their names. -/
def RootPolicy.known : List (String × RootPolicy) :=
  [("disconnected", .disconnected), ("reject", .reject)]

structure LayoutConfig where
  rowHeight : Float32 := 36
  barMargin : Float32 := 10
  /-- A connector whose child starts nearer than this to its parent makes a detour to the left. -/
  connectorThreshold : Float32 := 10
  doglegOffsetX : Float32 := 15
  doglegOffsetY : Float32 := 6
  axisHeight : Float32 := 20
  axisTicks : Nat := 20
  labelOffsetX : Float32 := 5
  /-- The average width of a character as a fraction of the font size. -/
  labelCharWidth : Float32 := 0.6
  legendHeight : Float32 := 32
  legendChipPadding : Float32 := 7
  legendGap : Float32 := 8
  /-- What the container width loses before times are mapped onto it. -/
  containerPadding : Float32 := 50
  rootPolicy : RootPolicy := .disconnected

namespace LayoutConfig

/-- Bars keep a height of at least one pixel. -/
def barHeight (c : LayoutConfig) : Float32 := larger (c.rowHeight - c.barMargin) 1

/-- The width left for the chart in a container. -/
def chartWidth (c : LayoutConfig) (containerWidth : Float32) : Float32 :=
  containerWidth - c.containerPadding

end LayoutConfig

structure Config where
  theme : Theme := .classic
  layout : LayoutConfig := {}
  /-- The width of the container. -/
  width : Float32 := 1200

end Waterfall
