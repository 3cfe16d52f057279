import Waterfall.Config.Basic
import Waterfall.Json5.Grammar
import Waterfall.Json5.Typed

/-!
# Settings files

A settings file gives some of the settings; each one given replaces the one it names and nothing
else. A named theme is the base that single theme settings are laid over, wherever the two stand in
the file. A palette has to have colours to count.
-/

namespace Waterfall

/-- What a settings file says about the theme. -/
structure ThemeOverlay where
  fontFamily : Option String
  fontSize : Option Float32
  textColor : Option String
  lineColor : Option String
  axisColor : Option String
  background : Option String
  errorBorderColor : Option String
  legendTextColor : Option String
  palette : Option (List String)

/-- What a settings file says about the layout. -/
structure LayoutOverlay where
  rowHeight : Option Float32
  barMargin : Option Float32
  connectorThreshold : Option Float32
  doglegOffsetX : Option Float32
  doglegOffsetY : Option Float32
  axisHeight : Option Float32
  axisTicks : Option Nat
  labelOffsetX : Option Float32
  labelCharWidth : Option Float32
  legendHeight : Option Float32
  legendChipPadding : Option Float32
  legendGap : Option Float32
  containerPadding : Option Float32
  rootPolicy : Option RootPolicy

/-- What a settings file says. -/
structure ConfigOverlay where
  theme : Option String
  themeVariables : Option ThemeOverlay
  layout : Option LayoutOverlay
  width : Option Float32

namespace ThemeOverlay

/-- A palette without colours is not one. -/
def usablePalette (o : ThemeOverlay) : Option (List String) :=
  o.palette.filter fun p => !p.isEmpty

def apply (o : ThemeOverlay) (t : Theme) : Theme where
  fontFamily := o.fontFamily.getD t.fontFamily
  fontSize := o.fontSize.getD t.fontSize
  textColor := o.textColor.getD t.textColor
  lineColor := o.lineColor.getD t.lineColor
  axisColor := o.axisColor.getD t.axisColor
  background := o.background.getD t.background
  errorBorderColor := o.errorBorderColor.getD t.errorBorderColor
  legendTextColor := o.legendTextColor.getD t.legendTextColor
  palette := o.usablePalette.getD t.palette

end ThemeOverlay

def LayoutOverlay.apply (o : LayoutOverlay) (c : LayoutConfig) : LayoutConfig where
  rowHeight := o.rowHeight.getD c.rowHeight
  barMargin := o.barMargin.getD c.barMargin
  connectorThreshold := o.connectorThreshold.getD c.connectorThreshold
  doglegOffsetX := o.doglegOffsetX.getD c.doglegOffsetX
  doglegOffsetY := o.doglegOffsetY.getD c.doglegOffsetY
  axisHeight := o.axisHeight.getD c.axisHeight
  axisTicks := o.axisTicks.getD c.axisTicks
  labelOffsetX := o.labelOffsetX.getD c.labelOffsetX
  labelCharWidth := o.labelCharWidth.getD c.labelCharWidth
  legendHeight := o.legendHeight.getD c.legendHeight
  legendChipPadding := o.legendChipPadding.getD c.legendChipPadding
  legendGap := o.legendGap.getD c.legendGap
  containerPadding := o.containerPadding.getD c.containerPadding
  rootPolicy := o.rootPolicy.getD c.rootPolicy

/-- Lays an overlay over something, if there is one. -/
def overlaid {α β : Type} (apply : α → β → β) (o : Option α) (base : β) : β :=
  match o with
  | some o => apply o base
  | none => base

namespace ConfigOverlay

/-- The theme that single settings are laid over: the named one, if the name is known. -/
def baseTheme (o : ConfigOverlay) (t : Theme) : Theme := (o.theme.bind Theme.byName?).getD t

def apply (o : ConfigOverlay) (c : Config) : Config where
  -- First the named theme, then what is said of single colours, in whatever order the file has them.
  theme := overlaid ThemeOverlay.apply o.themeVariables (o.baseTheme c.theme)
  layout := overlaid LayoutOverlay.apply o.layout c.layout
  width := o.width.getD c.width

end ConfigOverlay

/-! ## Reading -/

open Json5 in
def ThemeOverlay.ofJson5 : Json5Decoder ThemeOverlay := fun v => do
  let (fontFamily, fontSize, textColor, lineColor, axisColor, background, errorBorderColor,
    legendTextColor, palette, ()) ← asRecord "struct ThemeVariables"
      (.cons (maybe "fontFamily" asText) <|
       .cons (maybe "fontSize" asSingle) <|
       .cons (maybe "textColor" asText) <|
       .cons (maybe "lineColor" asText) <|
       .cons (maybe "axisColor" asText) <|
       .cons (maybe "background" asText) <|
       .cons (maybe "errorBorderColor" asText) <|
       .cons (maybe "legendTextColor" asText) <|
       .cons (maybe "palette" (asList asText)) .nil) v
  return {
    fontFamily, fontSize, textColor, lineColor, axisColor, background, errorBorderColor,
    legendTextColor, palette }

open Json5 in
def LayoutOverlay.ofJson5 : Json5Decoder LayoutOverlay := fun v => do
  let (rowHeight, barMargin, connectorThreshold, doglegOffsetX, doglegOffsetY, axisHeight, axisTicks,
    labelOffsetX, labelCharWidth, legendHeight, legendChipPadding, legendGap, containerPadding,
    rootPolicy, ()) ← asRecord "struct LayoutConfigFile"
      (.cons (maybe "rowHeight" asSingle) <|
       .cons (maybe "barMargin" asSingle) <|
       .cons (maybe "connectorThreshold" asSingle) <|
       .cons (maybe "doglegOffsetX" asSingle) <|
       .cons (maybe "doglegOffsetY" asSingle) <|
       .cons (maybe "axisHeight" asSingle) <|
       .cons (maybe "axisTicks" asUnsigned) <|
       .cons (maybe "labelOffsetX" asSingle) <|
       .cons (maybe "labelCharWidth" asSingle) <|
       .cons (maybe "legendHeight" asSingle) <|
       .cons (maybe "legendChipPadding" asSingle) <|
       .cons (maybe "legendGap" asSingle) <|
       .cons (maybe "containerPadding" asSingle) <|
       .cons (maybe "rootPolicy" (asVariant RootPolicy.known)) .nil) v
  return {
    rowHeight, barMargin, connectorThreshold, doglegOffsetX, doglegOffsetY, axisHeight, axisTicks,
    labelOffsetX, labelCharWidth, legendHeight, legendChipPadding, legendGap, containerPadding,
    rootPolicy }

open Json5 in
def ConfigOverlay.ofJson5 : Json5Decoder ConfigOverlay := fun v => do
  let (theme, themeVariables, layout, width, ()) ← asRecord "struct ConfigFile"
    (.cons (maybe "theme" asText) <|
     .cons (maybe "themeVariables" ThemeOverlay.ofJson5) <|
     .cons { maybe "layout" LayoutOverlay.ofJson5 with otherName := some "traceStack" } <|
     .cons (maybe "width" asSingle) .nil) v
  return { theme, themeVariables, layout, width }

/-- Why a settings file cannot be used. -/
inductive ConfigError where
  /-- The text is not JSON5. -/
  | notJson5
  | data (fault : Json5.DataFault)

/-- The settings of a file, laid over the defaults. -/
def parseConfig (contents : String) : Except ConfigError Config :=
  match Json5.ofText contents.toList with
  | none => .error .notJson5
  | some tree =>
    match ConfigOverlay.ofJson5 tree with
    | .error fault => .error (.data fault)
    | .ok overlay => .ok (overlay.apply {})

end Waterfall
