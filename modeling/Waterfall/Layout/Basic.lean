import Waterfall.Layout.Connector
import Waterfall.Layout.Legend
import Waterfall.Layout.Tick
import Waterfall.Trace.Structure

/-!
# The layout of a trace

A valid trace becomes rows, connectors, an axis with ticks and a legend; any other trace becomes an
error panel and nothing else. `compute` is the layout of a valid trace, `computeOrError` the one that
is always drawn.
-/

namespace Waterfall

/-- The message shown in place of a trace that cannot be laid out. -/
structure ErrorPanel where
  message : String
  textX : Float32
  textY : Float32

structure TraceLayout where
  rows : List Row
  connectors : List Connector
  axis : Option Axis
  ticks : List Tick
  legend : List Chip
  chartX : Float32
  chartY : Float32
  width : Float32
  height : Float32
  error : Option ErrorPanel

namespace TraceLayout

/-- Whether there is nothing to look at but perhaps a panel. -/
def isEmpty (l : TraceLayout) : Bool := l.rows.isEmpty

/-- The row of a span. -/
def rowFor? (l : TraceLayout) (spanId : String) : Option Row :=
  l.rows.find? (·.node.id == spanId)

/-- The connector that ends at the row of a node, if the node has a parent with a row. -/
def connectorTo? (config : LayoutConfig) (rows : List Row) (node : Node) : Option Connector := do
  let parentId ← node.parentId
  let parent ← Row.anchorOf? rows parentId
  let child ← Row.anchorOf? rows node.id
  let (route, segments) := Connector.between config parent child
  return { parentId, childId := node.id, route, segments }

/-- The connectors of all nodes but the first. -/
def connectorsOf (config : LayoutConfig) (rows : List Row) (nodes : List Node) : List Connector :=
  (nodes.drop 1).filterMap (connectorTo? config rows)

/-- The layout of spans that form a valid trace. -/
def ofValid (spans : List Span) (theme : Theme) (config : LayoutConfig) (containerWidth : Float32) :
    TraceLayout :=
  let chartWidth := larger (config.chartWidth containerWidth) 0
  let (nodes, colors) := Node.ofSpans spans theme.palette
  let axis := Axis.ofNodes nodes chartWidth
  let rows := Row.ofNodes nodes axis theme config
  let legend := Legend.chips colors containerWidth theme config
  let chartY := Legend.height legend + config.legendGap + config.axisHeight
  { rows
    connectors := connectorsOf config rows nodes
    axis := some axis
    ticks := axis.ticks config.axisTicks
    legend
    chartX := config.containerPadding / 2
    chartY
    width := larger containerWidth 1
    height := chartY + singleOfInt rows.length * config.rowHeight
    error := none }

/-- The layout of a trace, or the defect that makes it invalid. -/
def compute (spans : List Span) (theme : Theme) (config : LayoutConfig) (containerWidth : Float32) :
    Except Defect TraceLayout :=
  match validate spans config.rootPolicy with
  | .error d => .error d
  | .ok () => .ok (ofValid spans theme config containerWidth)

/-- The panel that shows a message. -/
def ofMessage (message : String) (theme : Theme) (config : LayoutConfig) (containerWidth : Float32) :
    TraceLayout :=
  let height := larger (config.rowHeight * 2) (theme.fontSize * 3)
  { rows := []
    connectors := []
    axis := none
    ticks := []
    legend := []
    chartX := 0
    chartY := 0
    width := larger containerWidth 1
    height
    error := some {
      message
      textX := config.containerPadding / 2
      textY := height / 2 + theme.fontSize / 2 } }

/-- The layout of a trace, or the panel that names its defect. -/
def computeOrError (spans : List Span) (theme : Theme) (config : LayoutConfig)
    (containerWidth : Float32) : TraceLayout :=
  match compute spans theme config containerWidth with
  | .ok layout => layout
  | .error d => ofMessage (TraceError.defect d).message theme config containerWidth

/-- A layout comes from a valid trace only. -/
theorem compute_eq_ok_iff {spans : List Span} {theme : Theme} {config : LayoutConfig}
    {containerWidth : Float32} {layout : TraceLayout} :
    compute spans theme config containerWidth = .ok layout ↔
      validate spans config.rootPolicy = .ok () ∧
        ofValid spans theme config containerWidth = layout := by
  unfold compute
  split <;> simp_all

/-- A valid trace has a layout. -/
theorem compute_of_ok {spans : List Span} {theme : Theme} {config : LayoutConfig}
    {containerWidth : Float32} (h : validate spans config.rootPolicy = .ok ()) :
    compute spans theme config containerWidth = .ok (ofValid spans theme config containerWidth) :=
  compute_eq_ok_iff.mpr ⟨h, rfl⟩

/-- An invalid trace has a panel and no rows. -/
theorem computeOrError_of_error {spans : List Span} {theme : Theme} {config : LayoutConfig}
    {containerWidth : Float32} {d : Defect} (h : validate spans config.rootPolicy = .error d) :
    computeOrError spans theme config containerWidth =
      ofMessage (TraceError.defect d).message theme config containerWidth := by
  simp [computeOrError, compute, h]

/-- A valid trace is laid out. -/
theorem computeOrError_of_ok {spans : List Span} {theme : Theme} {config : LayoutConfig}
    {containerWidth : Float32} (h : validate spans config.rootPolicy = .ok ()) :
    computeOrError spans theme config containerWidth = ofValid spans theme config containerWidth := by
  simp [computeOrError, compute, h]

end TraceLayout

end Waterfall
