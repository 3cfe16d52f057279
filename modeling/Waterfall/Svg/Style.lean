import Waterfall.Number.Shortest
import Waterfall.Svg.Escape
import Waterfall.Theme

/-!
# Styles

Every kind of element has a resolver that gives its presentation attributes from the theme, a colour
and an error flag. Resolvers can be replaced kind by kind.
-/

namespace Waterfall

inductive ElementKind where
  | bar
  | hitArea
  | label
  | connector
  | axisLine
  | axisTick
  | legendChip
  | legendLabel
  | diagnostic
  deriving DecidableEq, Repr

/-- What an element is styled from. -/
structure StyleContext where
  theme : Theme
  color : Option String
  isError : Bool

/-- The presentation attributes that are set. -/
structure StyleAttributes where
  fill : Option String := none
  stroke : Option String := none
  strokeWidth : Option Float32 := none
  opacity : Option Float32 := none
  fontSize : Option Float32 := none
  fontFamily : Option String := none

namespace StyleAttributes

/-- One attribute with a blank before it. -/
def inTag (name value : String) : String := " " ++ name ++ "=\"" ++ value ++ "\""

/-- A font family with its quotes as entities. -/
def quotesEscaped (family : String) : String :=
  .ofList (Xml.replaceAll '"' "&quot;".toList family.toList)

/-- The attributes as names and values, in the order in which they are written. -/
def toList (a : StyleAttributes) : List (String × String) :=
  [("fill", a.fill), ("stroke", a.stroke), ("stroke-width", a.strokeWidth.map textOfSingle),
   ("opacity", a.opacity.map textOfSingle), ("font-size", a.fontSize.map textOfSingle),
   ("font-family", a.fontFamily.map quotesEscaped)].filterMap fun (name, value) => value.map (name, ·)

/-- The attributes that are set, as they stand in a tag. -/
def toSvg (a : StyleAttributes) : String :=
  String.join (a.toList.map fun (name, value) => inTag name value)

end StyleAttributes

/-- How the elements of one kind are styled. -/
abbrev StyleResolver := StyleContext → StyleAttributes

namespace StyleResolver

def bar : StyleResolver := fun ctx =>
  { fill := ctx.color
    stroke := if ctx.isError then some ctx.theme.errorBorderColor else none
    strokeWidth := if ctx.isError then some 1.5 else none }

def hitArea : StyleResolver := fun _ => { fill := some "#000000", opacity := some 0 }

/-- Text in the theme's font. -/
def text (color : Theme → String) : StyleResolver := fun ctx =>
  { fill := some (color ctx.theme)
    fontSize := some ctx.theme.fontSize
    fontFamily := some ctx.theme.fontFamily }

/-- An unfilled line of one pixel. -/
def line (color : Theme → String) : StyleResolver := fun ctx =>
  { fill := some "none", stroke := some (color ctx.theme), strokeWidth := some 1 }

/-- Tick labels are a little smaller than other text. -/
def axisTick : StyleResolver := fun ctx =>
  { fill := some ctx.theme.axisColor
    fontSize := some (larger (ctx.theme.fontSize - 2) 8)
    fontFamily := some ctx.theme.fontFamily }

def legendChip : StyleResolver := fun ctx => { fill := ctx.color }

/-- The resolver that comes with the library. -/
def standard : ElementKind → StyleResolver
  | .bar => bar
  | .hitArea => hitArea
  | .label => text (·.textColor)
  | .connector => line (·.lineColor)
  | .axisLine => line (·.axisColor)
  | .axisTick => axisTick
  | .legendChip => legendChip
  | .legendLabel => text (·.legendTextColor)
  | .diagnostic => text (·.errorBorderColor)

end StyleResolver

/-- A resolver for each kind of element. -/
structure StyleResolvers where
  resolver : ElementKind → StyleResolver

namespace StyleResolvers

def standard : StyleResolvers := ⟨StyleResolver.standard⟩

/-- Another resolver for one kind. -/
def replace (s : StyleResolvers) (kind : ElementKind) (r : StyleResolver) : StyleResolvers :=
  ⟨fun k => if k = kind then r else s.resolver k⟩

/-- The attributes of an element. -/
def resolve (s : StyleResolvers) (kind : ElementKind) (ctx : StyleContext) : StyleAttributes :=
  s.resolver kind ctx

theorem resolve_replace_self (s : StyleResolvers) (kind : ElementKind) (r : StyleResolver)
    (ctx : StyleContext) : (s.replace kind r).resolve kind ctx = r ctx := by
  simp [replace, resolve]

theorem resolve_replace_of_ne {s : StyleResolvers} {kind other : ElementKind} (r : StyleResolver)
    (ctx : StyleContext) (h : other ≠ kind) :
    (s.replace kind r).resolve other ctx = s.resolve other ctx := by
  simp [replace, resolve, h]

end StyleResolvers

end Waterfall
