import Waterfall.Layout.Basic
import Waterfall.Svg.Style

/-!
# Pictures

The picture of a layout is a sequence of literal text and of holes for the attributes of elements.
The sequence does not depend on the styles: `render` fills each hole with what the resolver of its
kind gives for its context, and copies everything else.
-/

namespace Waterfall

/-- A part of a picture. -/
inductive PicturePiece where
  | literal (text : String)
  | hole (kind : ElementKind) (context : StyleContext)

abbrev Picture := List PicturePiece

namespace Picture

/-- The text of a piece. -/
def fill (styles : StyleResolvers) : PicturePiece → String
  | .literal text => text
  | .hole kind context => (styles.resolve kind context).toSvg

/-- The picture as text. -/
def render (styles : StyleResolvers) (p : Picture) : String :=
  String.join (p.map (fill styles))

/-! ## Elements -/

/-- A context without colour. -/
def plain (theme : Theme) : StyleContext := ⟨theme, none, false⟩

/-- A context with a colour. -/
def colored (theme : Theme) (color : String) (isError : Bool) : StyleContext :=
  ⟨theme, some color, isError⟩

/-- Position and size as attributes. -/
def box (x y width height : Float32) : String :=
  "x=\"" ++ twoPlaces x ++ "\" y=\"" ++ twoPlaces y ++ "\" width=\"" ++ twoPlaces width ++
    "\" height=\"" ++ twoPlaces height ++ "\""

/-- A move to a place. -/
def shift (x y : Float32) : String :=
  "transform=\"translate(" ++ twoPlaces x ++ "," ++ twoPlaces y ++ ")\""

/-- The start of the document and its background. -/
def opening (l : TraceLayout) (theme : Theme) : Picture :=
  let width := textOfSingle l.width
  let height := textOfSingle l.height
  [.literal ("<svg xmlns=\"http://www.w3.org/2000/svg\" width=\"" ++ width ++ "\" height=\"" ++ height ++
      "\" viewBox=\"0 0 " ++ width ++ " " ++ height ++ "\">"),
   .literal ("<rect width=\"100%\" height=\"100%\" fill=\"" ++ theme.background ++ "\"/>")]

def closing : Picture := [.literal "</svg>"]

/-- The message of an error panel. -/
def diagnostic (theme : Theme) (e : ErrorPanel) : Picture :=
  [.literal ("<text class=\"diagnostic\" x=\"" ++ twoPlaces e.textX ++ "\" y=\"" ++ twoPlaces e.textY ++
      "\""),
   .hole .diagnostic (plain theme),
   .literal (">" ++ Xml.escaped e.message ++ "</text>")]

/-- The arrowhead of connectors. -/
def arrowhead (theme : Theme) : Picture :=
  [.literal "<defs>",
   .literal ("<marker id=\"arrow\" markerUnits=\"strokeWidth\" markerWidth=\"12\" markerHeight=\"12\" " ++
      "viewBox=\"0 0 12 12\" refX=\"6\" refY=\"6\" orient=\"auto\">" ++
      "<path d=\"M2,2 L10,6 L2,10 L6,6 L2,2\" fill=\"" ++ theme.lineColor ++ "\"/></marker>"),
   .literal "</defs>"]

/-- A chip of the legend and its text. -/
def chip (theme : Theme) (c : Chip) : Picture :=
  let ctx := colored theme c.color false
  [.literal ("<rect " ++ box c.x c.y c.width c.height ++ " rx=\"4\" ry=\"4\""),
   .hole .legendChip ctx,
   .literal "/>",
   .literal ("<text x=\"" ++ twoPlaces (c.x + c.width / 2) ++ "\" y=\"" ++
      twoPlaces (c.y + c.height / 2) ++ "\" text-anchor=\"middle\" dominant-baseline=\"central\""),
   .hole .legendLabel ctx,
   .literal (">" ++ Xml.escaped c.actor ++ "</text>")]

def legend (theme : Theme) (chips : List Chip) : Picture :=
  .literal "<g class=\"legend\">" :: chips.flatMap (chip theme) ++ [.literal "</g>"]

/-- The length of tick marks. -/
def tickLength (config : LayoutConfig) : Float32 := roundSingle (config.axisHeight * 0.3)

/-- A tick mark and its label. -/
def tick (theme : Theme) (length : Float32) (t : Tick) : Picture :=
  let x := twoPlaces t.x
  [.literal ("<line x1=\"" ++ x ++ "\" y1=\"-" ++ textOfSingle length ++ "\" x2=\"" ++ x ++ "\" y2=\"0\""),
   .hole .axisLine (plain theme),
   .literal "/>",
   .literal ("<text x=\"" ++ x ++ "\" y=\"-" ++ textOfSingle (length + 3) ++ "\" text-anchor=\"middle\""),
   .hole .axisTick (plain theme),
   .literal (">" ++ Xml.escaped t.label ++ "</text>")]

def axis (theme : Theme) (config : LayoutConfig) (l : TraceLayout) (a : Axis) : Picture :=
  let length := tickLength config
  [.literal ("<g class=\"axis\" " ++ shift l.chartX l.chartY ++ ">"),
   .literal ("<path d=\"M 0 -" ++ textOfSingle length ++ " V 0 H " ++ twoPlaces a.width ++ " V -" ++
      textOfSingle length ++ "\""),
   .hole .axisLine (plain theme),
   .literal "/>"] ++
  l.ticks.flatMap (tick theme length) ++ [.literal "</g>"]

/-- The text of a row's label, if there is any. -/
def rowLabel (ctx : StyleContext) (label : RowLabel) : Picture :=
  -- A label that was dropped leaves no empty element behind.
  if label.text.isEmpty then []
  else
    [.literal ("<text x=\"" ++ twoPlaces label.x ++ "\" y=\"" ++ twoPlaces label.y ++ "\""),
     .hole .label ctx,
     .literal (">" ++ Xml.escaped label.text ++ "</text>")]

/-- A row: its bar, the area that reacts to the pointer, and its label. -/
def row (theme : Theme) (hitWidth : Float32) (r : Row) : Picture :=
  let ctx := colored theme r.color r.node.isError
  [.literal ("<g data-span-id=\"" ++ Xml.escaped r.node.id ++ "\">"),
   .literal ("<rect class=\"bar\" " ++ box r.barX r.rowY r.barWidth r.barHeight),
   .hole .bar ctx,
   .literal "/>",
   .literal ("<rect class=\"hit\" x=\"0\" y=\"" ++ twoPlaces r.rowY ++ "\" width=\"" ++
      twoPlaces hitWidth ++ "\" height=\"" ++ twoPlaces r.barHeight ++ "\""),
   .hole .hitArea ctx,
   .literal ("><title>" ++ Xml.escaped r.node.label ++ "</title></rect>")] ++
  rowLabel ctx r.label ++ [.literal "</g>"]

/-- The commands that draw a line through points. -/
def pathData : List Point → String
  | [] => ""
  | p :: rest =>
    "M " ++ twoPlaces p.x ++ " " ++ twoPlaces p.y ++
      String.join (rest.map fun q => " L " ++ twoPlaces q.x ++ " " ++ twoPlaces q.y)

def connector (theme : Theme) (c : Connector) : Picture :=
  [.literal ("<path class=\"connector\" d=\"" ++ pathData c.points ++ "\""),
   .hole .connector (plain theme),
   .literal " marker-end=\"url(#arrow)\"/>"]

/-- The rows and the connectors over them. -/
def chart (theme : Theme) (l : TraceLayout) : Picture :=
  let hitWidth := (l.axis.map (·.width)).getD 0
  .literal ("<g class=\"rows\" " ++ shift l.chartX l.chartY ++ ">") ::
  l.rows.flatMap (row theme hitWidth) ++ l.connectors.flatMap (connector theme) ++ [.literal "</g>"]

/-- The picture of a layout. -/
def ofLayout (l : TraceLayout) (theme : Theme) (config : LayoutConfig) : Picture :=
  opening l theme ++
  (match l.error with
   | some e => diagnostic theme e
   | none =>
     arrowhead theme ++ legend theme l.legend ++
     ((l.axis.map (axis theme config l)).getD []) ++ chart theme l) ++
  closing

/-- The text of two pictures is the text of one after the other. -/
theorem render_append (styles : StyleResolvers) (p q : Picture) :
    render styles (p ++ q) = render styles p ++ render styles q := by
  simp [render]

end Picture

/-- The SVG text of a layout, with given styles. -/
def renderSvgWith (styles : StyleResolvers) (l : TraceLayout) (theme : Theme) (config : LayoutConfig) :
    String :=
  (Picture.ofLayout l theme config).render styles

/-- The SVG text of a layout. -/
def renderSvg (l : TraceLayout) (theme : Theme) (config : LayoutConfig) : String :=
  renderSvgWith .standard l theme config

end Waterfall
