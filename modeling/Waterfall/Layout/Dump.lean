import Waterfall.Json.Printer
import Waterfall.Layout.Basic

/-!
# The layout as JSON

The dump of a layout lists what other tools compare: the measures of the axis, the rows, the
connectors as lines of points, the legend and the message of an error panel.
-/

namespace Waterfall

def Axis.toJson (a : Axis) (ticks : List Tick) : Json := .object [
  ("max_extent", .whole a.maxExtent),
  ("digits", .whole a.digits),
  ("rounded_scale", .whole a.roundedScale),
  ("axis_max", .whole a.axisMax),
  ("width", .single a.width),
  ("ticks", .list (ticks.map fun t => .text t.label))]

def Row.toJson (r : Row) : Json := .object [
  ("id", .text r.node.id),
  ("parent_id", .optional .text r.node.parentId),
  ("index", .whole r.node.index),
  ("start_offset", .whole r.node.startOffset),
  ("duration", .whole r.node.duration),
  ("actor", .text r.node.actor),
  ("color", .text r.color),
  ("is_error", .flag r.node.isError),
  ("x", .single r.barX),
  ("y", .single r.rowY),
  ("width", .single r.barWidth),
  ("height", .single r.barHeight),
  ("label", .text r.label.text)]

def Point.toJson (p : Point) : Json := .list [.single p.x, .single p.y]

def Connector.toJson (c : Connector) : Json := .object [
  ("parent", .text c.parentId),
  ("child", .text c.childId),
  ("route", .text c.route.name),
  ("points", .list (c.points.map Point.toJson))]

def Chip.toJson (c : Chip) : Json := .object [("actor", .text c.actor), ("color", .text c.color)]

namespace TraceLayout

/-- The dump of a layout. -/
def toJson (l : TraceLayout) : Json := .object [
  ("width", .single l.width),
  ("height", .single l.height),
  ("chart_x", .single l.chartX),
  ("chart_y", .single l.chartY),
  ("axis", .optional (·.toJson l.ticks) l.axis),
  ("rows", .list (l.rows.map Row.toJson)),
  ("connectors", .list (l.connectors.map Connector.toJson)),
  ("legend", .list (l.legend.map Chip.toJson)),
  ("error", .optional (fun e => .text e.message) l.error)]

/-- The text of the dump. -/
def dump (l : TraceLayout) : String := l.toJson.toPrettyText

end TraceLayout

end Waterfall
