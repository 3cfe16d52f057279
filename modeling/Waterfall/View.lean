import Waterfall.Svg.Picture
import Waterfall.Trace.Detail

/-!
# Views

A view is a trace on screen: its spans, the width of its container, the layout computed from them
last, and the span that is selected. Each change of spans or width computes the whole layout again.
Theme and measures stay those the view was opened with.
-/

namespace Waterfall

structure TraceView where
  spans : List Span
  containerWidth : Float32
  theme : Theme
  config : LayoutConfig
  layout : TraceLayout
  selected : Option String

namespace TraceView

/-- A view of spans with nothing selected. -/
def ofSpans (spans : List Span) (containerWidth : Float32) (theme : Theme) (config : LayoutConfig) :
    TraceView where
  spans
  containerWidth
  theme
  config
  layout := .computeOrError spans theme config containerWidth
  selected := none

/-- The view with its layout computed again. -/
def refreshed (v : TraceView) : TraceView :=
  { v with layout := .computeOrError v.spans v.theme v.config v.containerWidth }

/-- Whether a container width leaves no room for the chart. -/
def tooNarrow (config : LayoutConfig) (containerWidth : Float32) : Bool :=
  config.chartWidth containerWidth ≤ 0

/-- Changes the container width, and says whether it did: a width without room for the chart leaves
the view as it is. -/
def resize (v : TraceView) (containerWidth : Float32) : Bool × TraceView :=
  if tooNarrow v.config containerWidth then (false, v)
  else (true, refreshed { v with containerWidth })

/-- Shows another trace, with nothing selected. -/
def selectTrace (v : TraceView) (spans : List Span) : TraceView :=
  refreshed { v with spans, selected := none }

/-- Selects a span and opens its panel; an unknown id leaves the view as it is. -/
def selectSpan (v : TraceView) (id : String) : Option SpanDetail × TraceView :=
  match findSpan? v.spans id with
  | some s => (some (.ofSpan s), { v with selected := some s.id })
  | none => (none, v)

def clearSelection (v : TraceView) : TraceView := { v with selected := none }

/-- The picture of the view, as SVG text. -/
def svg (v : TraceView) : String := renderSvg v.layout v.theme v.config

/-- A refused width changes nothing. -/
theorem snd_resize_of_refused {v : TraceView} {w : Float32} (h : (v.resize w).1 = false) :
    (v.resize w).2 = v := by
  unfold resize at h ⊢
  by_cases narrow : tooNarrow v.config w = true <;> simp_all

/-- Selecting gives the panel of the first span with the id. -/
theorem fst_selectSpan (v : TraceView) (id : String) :
    (v.selectSpan id).1 = findDetail? v.spans id := by
  unfold selectSpan findDetail?
  split <;> simp_all

end TraceView

end Waterfall
