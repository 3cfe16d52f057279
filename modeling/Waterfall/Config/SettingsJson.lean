import Waterfall.Config.Basic
import Waterfall.Json.Printer
import Waterfall.Json.Typed
import Waterfall.Trace.SpanJson

/-!
# Settings as JSON

The JSON form of the layout measures, of a theme, of the render settings and of the root policy:
every field in order, all of them needed when read.
-/

namespace Waterfall

open Json

def RootPolicy.toJson (p : RootPolicy) : Json := .text p.name

def LayoutConfig.toJson (c : LayoutConfig) : Json := .object [
  ("row_height", .single c.rowHeight),
  ("bar_margin", .single c.barMargin),
  ("connector_threshold", .single c.connectorThreshold),
  ("dogleg_offset_x", .single c.doglegOffsetX),
  ("dogleg_offset_y", .single c.doglegOffsetY),
  ("axis_height", .single c.axisHeight),
  ("axis_ticks", .whole c.axisTicks),
  ("label_offset_x", .single c.labelOffsetX),
  ("label_char_width", .single c.labelCharWidth),
  ("legend_height", .single c.legendHeight),
  ("legend_chip_padding", .single c.legendChipPadding),
  ("legend_gap", .single c.legendGap),
  ("container_padding", .single c.containerPadding),
  ("root_policy", c.rootPolicy.toJson)]

def Theme.toJson (t : Theme) : Json := .object [
  ("font_family", .text t.fontFamily),
  ("font_size", .single t.fontSize),
  ("text_color", .text t.textColor),
  ("line_color", .text t.lineColor),
  ("axis_color", .text t.axisColor),
  ("background", .text t.background),
  ("error_border_color", .text t.errorBorderColor),
  ("legend_text_color", .text t.legendTextColor),
  ("palette", .list (t.palette.map .text))]

/-- The settings of a rendering, which are its width. -/
def renderSettingsJson (width : Float32) : Json := .object [("width", .single width)]

def RootPolicy.reader : Reader RootPolicy := readVariant known

def LayoutConfig.reader : Reader LayoutConfig := do
  let (rowHeight, barMargin, connectorThreshold, doglegOffsetX, doglegOffsetY, axisHeight, axisTicks,
    labelOffsetX, labelCharWidth, legendHeight, legendChipPadding, legendGap, containerPadding,
    rootPolicy, ()) ← readRecord "struct LayoutConfig"
      (.cons (needed "row_height" readSingle) <|
       .cons (needed "bar_margin" readSingle) <|
       .cons (needed "connector_threshold" readSingle) <|
       .cons (needed "dogleg_offset_x" readSingle) <|
       .cons (needed "dogleg_offset_y" readSingle) <|
       .cons (needed "axis_height" readSingle) <|
       .cons (needed "axis_ticks" readUnsigned) <|
       .cons (needed "label_offset_x" readSingle) <|
       .cons (needed "label_char_width" readSingle) <|
       .cons (needed "legend_height" readSingle) <|
       .cons (needed "legend_chip_padding" readSingle) <|
       .cons (needed "legend_gap" readSingle) <|
       .cons (needed "container_padding" readSingle) <|
       .cons (needed "root_policy" RootPolicy.reader) .nil)
  return {
    rowHeight, barMargin, connectorThreshold, doglegOffsetX, doglegOffsetY, axisHeight, axisTicks,
    labelOffsetX, labelCharWidth, legendHeight, legendChipPadding, legendGap, containerPadding,
    rootPolicy }

def Theme.reader : Reader Theme := do
  let (fontFamily, fontSize, textColor, lineColor, axisColor, background, errorBorderColor,
    legendTextColor, palette, ()) ← readRecord "struct Theme"
      (.cons (needed "font_family" readText) <|
       .cons (needed "font_size" readSingle) <|
       .cons (needed "text_color" readText) <|
       .cons (needed "line_color" readText) <|
       .cons (needed "axis_color" readText) <|
       .cons (needed "background" readText) <|
       .cons (needed "error_border_color" readText) <|
       .cons (needed "legend_text_color" readText) <|
       .cons (needed "palette" (readList readText)) .nil)
  return {
    fontFamily, fontSize, textColor, lineColor, axisColor, background, errorBorderColor,
    legendTextColor, palette }

/-- The width out of the settings of a rendering. -/
def renderSettingsReader : Reader Float32 := do
  let (width, ()) ← readRecord "struct RenderConfig" (.cons (needed "width" readSingle) .nil)
  return width

end Waterfall
