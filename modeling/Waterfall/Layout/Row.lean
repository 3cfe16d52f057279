import Waterfall.Layout.Axis
import Waterfall.Layout.Label

/-!
# Rows

One row for each node, in order. The start and the end of a bar are mapped onto the axis apart, so
that bars that touch in time touch on screen.
-/

namespace Waterfall

/-- A point in pixels. -/
structure Point where
  x : Float32
  y : Float32
  deriving BEq

structure RowLabel where
  text : String
  x : Float32
  y : Float32
  clipped : Bool

structure Row where
  node : Node
  rowY : Float32
  barX : Float32
  barWidth : Float32
  barHeight : Float32
  color : String
  label : RowLabel

namespace Row

/-- Where connectors meet the bar of a row. -/
def anchor (r : Row) : Point := ⟨r.barX, r.rowY⟩

/-- The label of a node whose bar starts at the given place. -/
def labelOf (axis : Axis) (theme : Theme) (config : LayoutConfig) (node : Node) (barX rowY : Float32) :
    RowLabel :=
  let x := barX + config.labelOffsetX
  let (text, clipped) :=
    Label.clip node.label.toList (axis.width - x) theme.fontSize config.labelCharWidth
  { text := .ofList text, x, y := rowY + config.rowHeight / 2, clipped }

/-- The row of a node in the given place. -/
def ofNode (axis : Axis) (theme : Theme) (config : LayoutConfig) (index : Nat) (node : Node) : Row :=
  let rowY := singleOfInt index * config.rowHeight
  let barX := axis.toPixel node.startOffset
  { node
    rowY
    barX
    barWidth := larger (axis.toPixel node.endOffset - barX) 0
    barHeight := config.barHeight
    color := node.color
    label := labelOf axis theme config node barX rowY }

/-- The rows of all nodes. -/
def ofNodes (nodes : List Node) (axis : Axis) (theme : Theme) (config : LayoutConfig) : List Row :=
  nodes.mapIdx (ofNode axis theme config)

/-- The anchor of the row of a node; of rows with one id the last counts. -/
def anchorOf? (rows : List Row) (id : String) : Option Point :=
  (rows.reverse.find? (·.node.id == id)).map anchor

/-- The anchors of all rows by id, each id once. -/
def anchors (rows : List Row) : List (String × Point) :=
  ((rows.map (·.node.id)).eraseDups).filterMap fun id => (anchorOf? rows id).map (id, ·)

theorem length_ofNodes (nodes : List Node) (axis : Axis) (theme : Theme) (config : LayoutConfig) :
    (ofNodes nodes axis theme config).length = nodes.length := by
  simp [ofNodes]

/-- The row in a place is made from the node in that place alone. -/
theorem getElem?_ofNodes (nodes : List Node) (axis : Axis) (theme : Theme) (config : LayoutConfig)
    (row : Nat) :
    (ofNodes nodes axis theme config)[row]? = nodes[row]?.map (ofNode axis theme config row) := by
  simp [ofNodes]

/-- The rows hold the nodes, in order. -/
theorem map_node_ofNodes (nodes : List Node) (axis : Axis) (theme : Theme) (config : LayoutConfig) :
    (ofNodes nodes axis theme config).map (·.node) = nodes := by
  apply List.ext_getElem
  · simp [ofNodes]
  · intro i h₁ h₂
    simp [ofNodes, ofNode]

end Row

end Waterfall
