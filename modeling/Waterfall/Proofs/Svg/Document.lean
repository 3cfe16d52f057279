import Mathlib.Data.List.Forall2
import Waterfall.Proofs.Number.Characters
import Waterfall.Proofs.Svg.Markup
import Waterfall.Svg.Picture

/-!
# The document of a layout

The elements that the picture of a layout consists of, as a tree. `Picture.documentElement` is built like
the picture, part by part, but its values are values: no entity, no quote and no bracket is in it.

The text of the picture is read as that tree (`Picture.read_renderSvg`), provided that no colour of the
theme or of the layout has a meaning in markup. Nothing is asked of ids, labels, actors and messages.
-/

namespace Waterfall

open Xml (Plain PlainButQuotes Denotes AttributeDenotes AttributesDenote IsName Element Reads)

/-! ## Plain texts -/

theorem plain_of_ofNumberChars {s : String} (h : OfNumberChars s.toList) : Plain s := by
  have hchars : Plain (.ofList numberChars) := by decide
  exact fun c hc => hchars c (by simpa using h c hc)

@[simp] theorem plain_twoPlaces (x : Float32) : Plain (twoPlaces x) :=
  plain_of_ofNumberChars (ofNumberChars_twoPlaces x)

@[simp] theorem plain_textOfSingle (x : Float32) : Plain (textOfSingle x) :=
  plain_of_ofNumberChars (ofNumberChars_textOfSingle x)

/-- No colour of the theme has a meaning in markup, and its font family none but that of quotes. -/
structure Theme.Inert (t : Theme) : Prop where
  textColor : Plain t.textColor
  lineColor : Plain t.lineColor
  axisColor : Plain t.axisColor
  background : Plain t.background
  errorBorderColor : Plain t.errorBorderColor
  legendTextColor : Plain t.legendTextColor
  palette : ∀ color ∈ t.palette, Plain color
  fontFamily : PlainButQuotes t.fontFamily

/-- The built-in themes are inert. -/
theorem Theme.inert_of_byName? {name : String} {t : Theme} (h : byName? name = some t) : t.Inert := by
  have hclassic : classic.Inert := by
    constructor <;> decide
  have hmodern : modern.Inert := by
    constructor <;> decide
  unfold byName? at h
  split at h
  · cases h; exact hclassic
  · split at h
    · cases h; exact hmodern
    · cases h

/-- No colour of the layout has a meaning in markup. -/
structure TraceLayout.Inert (l : TraceLayout) : Prop where
  rows : ∀ r ∈ l.rows, Plain r.color
  legend : ∀ c ∈ l.legend, Plain c.color

/-! ## Styles -/

namespace StyleAttributes

/-- The attributes that have a value. -/
def given (settings : List (String × Option String)) : List (String × String) :=
  settings.filterMap fun (name, value) => value.map (name, ·)

theorem keys_given_sublist (settings : List (String × Option String)) :
    ((given settings).map Prod.fst).Sublist (settings.map Prod.fst) := by
  induction settings with
  | nil => exact .slnil
  | cons setting rest ih =>
    obtain ⟨name, value⟩ := setting
    cases value with
    | none => exact ih.cons name
    | some v => exact ih.cons_cons name

/-- The attributes that can be set, in the order in which they are written. -/
def settings (a : StyleAttributes) : List (String × Option String) :=
  [("fill", a.fill), ("stroke", a.stroke), ("stroke-width", a.strokeWidth.map textOfSingle),
   ("opacity", a.opacity.map textOfSingle), ("font-size", a.fontSize.map textOfSingle),
   ("font-family", a.fontFamily)]

/-- The names of the attributes that can be set. -/
def names : List String := ["fill", "stroke", "stroke-width", "opacity", "font-size", "font-family"]

/-- The attributes that are set, with their values. -/
def values (a : StyleAttributes) : List (String × String) := given a.settings

theorem keys_values_sublist (a : StyleAttributes) : (a.values.map Prod.fst).Sublist names :=
  keys_given_sublist a.settings

/-- The colours and the font that are set have no meaning in markup but that of quotes. -/
structure Inert (a : StyleAttributes) : Prop where
  fill : ∀ s ∈ a.fill, Plain s
  stroke : ∀ s ∈ a.stroke, Plain s
  fontFamily : ∀ s ∈ a.fontFamily, PlainButQuotes s

theorem rel_denotes_of_plain {value : Option String} (h : ∀ s ∈ value, Plain s) :
    Option.Rel Denotes value value := by
  cases value with
  | none => exact .none
  | some s => exact .some (h s rfl).denotes

theorem rel_denotes_textOfSingle (value : Option Float32) :
    Option.Rel Denotes (value.map textOfSingle) (value.map textOfSingle) := by
  refine rel_denotes_of_plain fun s hs => ?_
  obtain ⟨x, -, rfl⟩ := Option.map_eq_some_iff.mp hs
  exact plain_textOfSingle x

/-- Inert attributes are written so that they are read back. -/
theorem forall₂_toList_values {a : StyleAttributes} (h : a.Inert) :
    List.Forall₂ AttributeDenotes a.toList a.values := by
  have hfamily : Option.Rel Denotes (a.fontFamily.map quotesEscaped) a.fontFamily := by
    cases hf : a.fontFamily with
    | none => exact .none
    | some s => exact .some (Xml.denotes_quotesEscaped (h.fontFamily s hf))
  refine List.rel_filterMap (R := fun raw parsed => raw.1 = parsed.1 ∧ IsName parsed.1 ∧
    Option.Rel Denotes raw.2 parsed.2) ?_ ?_
  · rintro ⟨name, raw⟩ ⟨_, value⟩ ⟨rfl, hname, hvalue⟩
    cases hvalue with
    | none => exact .none
    | some hv => exact .some ⟨rfl, hname, hv⟩
  · exact .cons ⟨rfl, (by decide : IsName "fill"), rel_denotes_of_plain h.fill⟩ <|
      .cons ⟨rfl, (by decide : IsName "stroke"), rel_denotes_of_plain h.stroke⟩ <|
      .cons ⟨rfl, (by decide : IsName "stroke-width"), rel_denotes_textOfSingle _⟩ <|
      .cons ⟨rfl, (by decide : IsName "opacity"), rel_denotes_textOfSingle _⟩ <|
      .cons ⟨rfl, (by decide : IsName "font-size"), rel_denotes_textOfSingle _⟩ <|
      .cons ⟨rfl, (by decide : IsName "font-family"), hfamily⟩ .nil

end StyleAttributes

/-- The colours that are set. -/
def StyleAttributes.colors (a : StyleAttributes) : List String := a.fill.toList ++ a.stroke.toList

/-- The colours of single elements; those of actors are in the palette. -/
def Theme.colors (t : Theme) : List String :=
  [t.textColor, t.lineColor, t.axisColor, t.background, t.errorBorderColor, t.legendTextColor]

/-- The standard styles take colours from their context, or black or none, and their font from the theme. -/
theorem StyleResolvers.standard_sets (kind : ElementKind) (ctx : StyleContext) :
    (∀ color ∈ (standard.resolve kind ctx).colors,
      color ∈ ctx.color ∨ color ∈ ctx.theme.colors ∨ color ∈ ["#000000", "none"]) ∧
    ∀ family ∈ (standard.resolve kind ctx).fontFamily, family = ctx.theme.fontFamily := by
  cases kind with
  | bar =>
    refine ⟨?_, fun family hmem => nomatch hmem⟩
    intro color hmem
    rcases List.mem_append.mp hmem with hfill | hstroke
    · exact .inl (Option.mem_toList.mp hfill)
    · have hborder : color ∈ (if ctx.isError then some ctx.theme.errorBorderColor else none) :=
        Option.mem_toList.mp hstroke
      split at hborder
      · obtain rfl := Option.some.inj hborder
        exact .inr (.inl (by simp [Theme.colors]))
      · cases hborder
  | legendChip =>
    refine ⟨?_, fun family hmem => nomatch hmem⟩
    intro color hmem
    rcases List.mem_append.mp hmem with hfill | hstroke
    · exact .inl (Option.mem_toList.mp hfill)
    · cases hstroke
  | _ =>
    simp [resolve, standard, StyleResolver.standard, StyleAttributes.colors, StyleResolver.hitArea,
      StyleResolver.text, StyleResolver.line, StyleResolver.axisTick, Theme.colors]

theorem Theme.Inert.plain_of_mem_colors {t : Theme} (h : t.Inert) {color : String} (hmem : color ∈ t.colors) :
    Plain color := by
  simp only [Theme.colors, List.mem_cons, List.not_mem_nil, or_false] at hmem
  rcases hmem with rfl | rfl | rfl | rfl | rfl | rfl
  exacts [h.textColor, h.lineColor, h.axisColor, h.background, h.errorBorderColor, h.legendTextColor]

/-- The standard styles of an inert theme and colour are inert. -/
theorem StyleResolvers.inert_standard {ctx : StyleContext} (htheme : ctx.theme.Inert)
    (hcolor : ∀ s ∈ ctx.color, Plain s) (kind : ElementKind) : (standard.resolve kind ctx).Inert := by
  obtain ⟨hcolors, hfamily⟩ := standard_sets kind ctx
  have hplain : ∀ color ∈ (standard.resolve kind ctx).colors, Plain color := by
    intro color hmem
    rcases hcolors color hmem with hgiven | hown | hfixed
    · exact hcolor color hgiven
    · exact htheme.plain_of_mem_colors hown
    · exact (by decide : ∀ color ∈ ["#000000", "none"], Plain color) color hfixed
  refine ⟨fun s hs => hplain s ?_, fun s hs => hplain s ?_, fun s hs => ?_⟩
  · exact List.mem_append_left _ (Option.mem_toList.mpr hs)
  · exact List.mem_append_right _ (Option.mem_toList.mpr hs)
  · rw [hfamily s hs]
    exact htheme.fontFamily

/-! ## The tree -/

namespace Picture

/-- The attributes of standard style. -/
def styled (kind : ElementKind) (ctx : StyleContext) : List (String × String) :=
  (StyleResolvers.standard.resolve kind ctx).values

def boxValues (x y width height : Float32) : List (String × String) :=
  [("x", twoPlaces x), ("y", twoPlaces y), ("width", twoPlaces width), ("height", twoPlaces height)]

def shiftValue (x y : Float32) : String × String :=
  ("transform", "translate(" ++ twoPlaces x ++ "," ++ twoPlaces y ++ ")")

def backgroundElement (theme : Theme) : Element where
  name := "rect"
  attributes := [("width", "100%"), ("height", "100%"), ("fill", theme.background)]

def diagnosticElement (theme : Theme) (e : ErrorPanel) : Element where
  name := "text"
  attributes := [("class", "diagnostic"), ("x", twoPlaces e.textX), ("y", twoPlaces e.textY)] ++
    styled .diagnostic (plain theme)
  text := e.message

def arrowElement (theme : Theme) : Element where
  name := "path"
  attributes := [("d", "M2,2 L10,6 L2,10 L6,6 L2,2"), ("fill", theme.lineColor)]

def markerElement (theme : Theme) : Element where
  name := "marker"
  attributes := [
    ("id", "arrow"), ("markerUnits", "strokeWidth"), ("markerWidth", "12"), ("markerHeight", "12"),
    ("viewBox", "0 0 12 12"), ("refX", "6"), ("refY", "6"), ("orient", "auto")]
  children := [arrowElement theme]

def arrowheadElement (theme : Theme) : Element where
  name := "defs"
  children := [markerElement theme]

def chipElements (theme : Theme) (c : Chip) : List Element := [
  { name := "rect"
    attributes := boxValues c.x c.y c.width c.height ++ [("rx", "4"), ("ry", "4")] ++
      styled .legendChip (colored theme c.color false) },
  { name := "text"
    attributes := [
      ("x", twoPlaces (c.x + c.width / 2)), ("y", twoPlaces (c.y + c.height / 2)),
      ("text-anchor", "middle"), ("dominant-baseline", "central")] ++
      styled .legendLabel (colored theme c.color false)
    text := c.actor }]

def legendElement (theme : Theme) (chips : List Chip) : Element where
  name := "g"
  attributes := [("class", "legend")]
  children := chips.flatMap (chipElements theme)

def tickElements (theme : Theme) (length : Float32) (t : Tick) : List Element := [
  { name := "line"
    attributes := [
      ("x1", twoPlaces t.x), ("y1", "-" ++ textOfSingle length), ("x2", twoPlaces t.x), ("y2", "0")] ++
      styled .axisLine (plain theme) },
  { name := "text"
    attributes := [
      ("x", twoPlaces t.x), ("y", "-" ++ textOfSingle (length + 3)), ("text-anchor", "middle")] ++
      styled .axisTick (plain theme)
    text := t.label }]

def axisLineElement (theme : Theme) (config : LayoutConfig) (a : Axis) : Element where
  name := "path"
  attributes := [
    ("d", "M 0 -" ++ textOfSingle (tickLength config) ++ " V 0 H " ++ twoPlaces a.width ++ " V -" ++
      textOfSingle (tickLength config))] ++
    styled .axisLine (plain theme)

def axisElement (theme : Theme) (config : LayoutConfig) (l : TraceLayout) (a : Axis) : Element where
  name := "g"
  attributes := [("class", "axis"), shiftValue l.chartX l.chartY]
  children := axisLineElement theme config a :: l.ticks.flatMap (tickElements theme (tickLength config))

/-- The bar of a row. -/
def barElement (theme : Theme) (r : Row) : Element where
  name := "rect"
  attributes := ("class", "bar") :: boxValues r.barX r.rowY r.barWidth r.barHeight ++
    styled .bar (colored theme r.color r.node.isError)

def titleElement (r : Row) : Element where
  name := "title"
  text := r.node.label

/-- The area of a row that reacts to the pointer. -/
def hitElement (theme : Theme) (hitWidth : Float32) (r : Row) : Element where
  name := "rect"
  attributes := [
    ("class", "hit"), ("x", "0"), ("y", twoPlaces r.rowY), ("width", twoPlaces hitWidth),
    ("height", twoPlaces r.barHeight)] ++
    styled .hitArea (colored theme r.color r.node.isError)
  children := [titleElement r]

/-- The text of a row's label, if there is any. -/
def labelElements (ctx : StyleContext) (label : RowLabel) : List Element :=
  if label.text.isEmpty then []
  else [{
    name := "text"
    attributes := [("x", twoPlaces label.x), ("y", twoPlaces label.y)] ++ styled .label ctx
    text := label.text }]

def rowElement (theme : Theme) (hitWidth : Float32) (r : Row) : Element where
  name := "g"
  attributes := [("data-span-id", r.node.id)]
  children := barElement theme r :: hitElement theme hitWidth r ::
    labelElements (colored theme r.color r.node.isError) r.label

def connectorElement (theme : Theme) (c : Connector) : Element where
  name := "path"
  attributes := [("class", "connector"), ("d", pathData c.points)] ++ styled .connector (plain theme) ++
    [("marker-end", "url(#arrow)")]

def chartElement (theme : Theme) (l : TraceLayout) : Element where
  name := "g"
  attributes := [("class", "rows"), shiftValue l.chartX l.chartY]
  children := l.rows.map (rowElement theme ((l.axis.map (·.width)).getD 0)) ++
    l.connectors.map (connectorElement theme)

/-- All elements over the background. -/
def contentElements (theme : Theme) (config : LayoutConfig) (l : TraceLayout) : List Element :=
  match l.error with
  | some e => [diagnosticElement theme e]
  | none =>
    arrowheadElement theme :: legendElement theme l.legend ::
      (l.axis.map (axisElement theme config l)).toList ++ [chartElement theme l]

/-- The document of a layout. -/
def documentElement (l : TraceLayout) (theme : Theme) (config : LayoutConfig) : Element where
  name := "svg"
  attributes := [
    ("xmlns", "http://www.w3.org/2000/svg"), ("width", textOfSingle l.width),
    ("height", textOfSingle l.height),
    ("viewBox", "0 0 " ++ textOfSingle l.width ++ " " ++ textOfSingle l.height)]
  children := backgroundElement theme :: contentElements theme config l

/-! ## Reading the picture -/

/-- The picture over the background. -/
def content (theme : Theme) (config : LayoutConfig) (l : TraceLayout) : Picture :=
  match l.error with
  | some e => diagnostic theme e
  | none =>
    arrowhead theme ++ legend theme l.legend ++ ((l.axis.map (axis theme config l)).getD []) ++
      chart theme l

theorem ofLayout_eq (l : TraceLayout) (theme : Theme) (config : LayoutConfig) :
    ofLayout l theme config = opening l theme ++ content theme config l ++ closing := rfl

/-- The picture in standard style is read as these elements. -/
def Draws (p : Picture) (elements : List Element) : Prop := Reads (p.render .standard) elements

theorem Draws.append {p q : Picture} {elements elements' : List Element} (hp : p.Draws elements)
    (hq : q.Draws elements') : (p ++ q).Draws (elements ++ elements') := by
  rw [Draws, render_append]
  exact Reads.append hp hq

theorem draws_flatMap {α : Type} {picture : α → Picture} {elements : α → List Element} {items : List α}
    (h : ∀ a ∈ items, (picture a).Draws (elements a)) :
    Draws (items.flatMap picture) (items.flatMap elements) := by
  induction items with
  | nil => exact Xml.reads_empty
  | cons a rest ih => exact (h a (by simp)).append (ih fun b hb => h b (by simp [hb]))

/-- A picture is read as its text is. -/
theorem draws_of_reads {p : Picture} {text : String} {elements : List Element}
    (htext : (p.render .standard).toList = text.toList) (h : Reads text elements) : p.Draws elements := by
  rw [Draws, String.toList_injective htext]
  exact h

@[simp] theorem render_literal_cons (styles : StyleResolvers) (text : String) (p : Picture) :
    render styles (.literal text :: p) = text ++ render styles p := by
  simp [render, fill]

/-- A hole is filled with the attributes of its style. -/
@[simp] theorem render_hole_cons (styles : StyleResolvers) (kind : ElementKind) (ctx : StyleContext)
    (p : Picture) : render styles (.hole kind ctx :: p) =
      Xml.inTag (styles.resolve kind ctx).toList ++ render styles p := by
  simp [render, fill, StyleAttributes.toSvg, Xml.inTag]

@[simp] theorem render_nil (styles : StyleResolvers) : render styles [] = "" := rfl

/-- Attributes before and after those of a style are read back. -/
theorem attributesDenote_around {a : StyleAttributes} (ha : a.Inert)
    {before after : List (String × String)} (hplain : ∀ x ∈ before ++ after, IsName x.1 ∧ Plain x.2)
    (hdistinct : (before.map Prod.fst ++ StyleAttributes.names ++ after.map Prod.fst).Nodup) :
    AttributesDenote (before ++ a.toList ++ after) (before ++ a.values ++ after) where
  each := by
    have hbefore := Xml.forall₂_attributeDenotes_of_plain fun x hx =>
      hplain x (List.mem_append_left after hx)
    have hafter := Xml.forall₂_attributeDenotes_of_plain fun x hx =>
      hplain x (List.mem_append_right before hx)
    exact List.rel_append (List.rel_append hbefore (StyleAttributes.forall₂_toList_values ha)) hafter
  distinct := by
    rw [List.map_append, List.map_append]
    exact hdistinct.sublist (((List.Sublist.refl _).append a.keys_values_sublist).append (.refl _))

/-- Attributes before those of a style are read back. -/
theorem attributesDenote_before {a : StyleAttributes} (ha : a.Inert) {before : List (String × String)}
    (hplain : ∀ x ∈ before, IsName x.1 ∧ Plain x.2)
    (hdistinct : (before.map Prod.fst ++ StyleAttributes.names).Nodup) :
    AttributesDenote (before ++ a.toList) (before ++ a.values) := by
  have hnil : ∀ x ∈ before ++ [], IsName x.1 ∧ Plain x.2 := by simpa using hplain
  simpa using attributesDenote_around ha hnil (by simpa using hdistinct)

/-- Attributes without any of a style are read back. -/
theorem attributesDenote_plain {attributes : List (String × String)}
    (hplain : ∀ x ∈ attributes, IsName x.1 ∧ Plain x.2) (hdistinct : (attributes.map Prod.fst).Nodup) :
    AttributesDenote attributes attributes :=
  ⟨Xml.forall₂_attributeDenotes_of_plain hplain, hdistinct⟩

theorem plain_pathData (points : List Point) : Plain (pathData points) := by
  cases points with
  | nil => decide
  | cons p rest =>
    have hrest : Plain (String.join (rest.map fun q => " L " ++ twoPlaces q.x ++ " " ++ twoPlaces q.y)) := by
      refine Plain.join fun s hs => ?_
      obtain ⟨q, -, rfl⟩ := List.mem_map.mp hs
      simp
      decide
    simp [pathData, hrest]
    decide

section Elements

variable {theme : Theme} (htheme : theme.Inert)

include htheme

theorem inert_plain (kind : ElementKind) :
    (StyleResolvers.standard.resolve kind (plain theme)).Inert :=
  StyleResolvers.inert_standard htheme (by simp [plain]) kind

theorem inert_colored {color : String} (hcolor : Plain color) (isError : Bool) (kind : ElementKind) :
    (StyleResolvers.standard.resolve kind (colored theme color isError)).Inert :=
  StyleResolvers.inert_standard htheme (by simpa [colored] using hcolor) kind

theorem draws_diagnostic (e : ErrorPanel) : (diagnostic theme e).Draws [diagnosticElement theme e] := by
  refine draws_of_reads ?_ (Xml.reads_text_element (by decide)
    (attributesDenote_before (inert_plain htheme .diagnostic) ?_ ?_) (Xml.denotes_escaped e.message))
  · simp [diagnostic]
  · simp; decide
  · simp; decide

-- The literal of the marker is long.
set_option maxRecDepth 1000 in
theorem draws_arrowhead : (arrowhead theme).Draws [arrowheadElement theme] := by
  have harrow : Reads _ [arrowElement theme] := Xml.reads_empty_element (by decide)
    (attributesDenote_plain (by simp [htheme.lineColor]; decide) (by simp))
  have hmarker : Reads _ [markerElement theme] := Xml.reads_element (by decide)
    (attributesDenote_plain (by decide) (by decide)) harrow
  refine draws_of_reads ?_ (Xml.reads_element (by decide) (attributesDenote_plain ?_ ?_) hmarker)
  · simp [arrowhead]
  · simp
  · simp

theorem draws_chip {c : Chip} (hcolor : Plain c.color) : (chip theme c).Draws (chipElements theme c) := by
  refine draws_of_reads ?_ ((Xml.reads_empty_element (by decide)
    (attributesDenote_before (inert_colored htheme hcolor false .legendChip) ?_ ?_)).append
    (Xml.reads_text_element (by decide)
      (attributesDenote_before (inert_colored htheme hcolor false .legendLabel) ?_ ?_)
      (Xml.denotes_escaped c.actor)))
  · simp [chip, box, boxValues]
  · simp [boxValues]; decide
  · simp [boxValues]; decide
  · simp; decide
  · simp; decide

theorem draws_legend {chips : List Chip} (hcolors : ∀ c ∈ chips, Plain c.color) :
    (legend theme chips).Draws [legendElement theme chips] := by
  have hchips := draws_flatMap fun c hc => draws_chip htheme (hcolors c hc)
  refine draws_of_reads ?_ (Xml.reads_element (by decide) (attributesDenote_plain ?_ ?_) hchips)
  · simp [legend, render_append]
  · decide
  · decide

theorem draws_tick (length : Float32) (t : Tick) :
    (tick theme length t).Draws (tickElements theme length t) := by
  refine draws_of_reads ?_ ((Xml.reads_empty_element (by decide)
    (attributesDenote_before (inert_plain htheme .axisLine) ?_ ?_)).append
    (Xml.reads_text_element (by decide)
      (attributesDenote_before (inert_plain htheme .axisTick) ?_ ?_) (Xml.denotes_escaped t.label)))
  · simp [tick]
  · simp; decide
  · simp; decide
  · simp; decide
  · simp; decide

theorem draws_axis (config : LayoutConfig) (l : TraceLayout) (a : Axis) :
    (axis theme config l a).Draws [axisElement theme config l a] := by
  have hticks := draws_flatMap fun t (_ : t ∈ l.ticks) => draws_tick htheme (tickLength config) t
  have hline : Reads _ [axisLineElement theme config a] := Xml.reads_empty_element (by decide)
    (attributesDenote_before (inert_plain htheme .axisLine) (by simp; decide) (by simp; decide))
  refine draws_of_reads ?_ (Xml.reads_element (by decide) (attributesDenote_plain ?_ ?_)
    (hline.append hticks))
  · unfold axis shift shiftValue
    simp [render_append]
  · simp [shiftValue]; decide
  · simp [shiftValue]

theorem draws_rowLabel {color : String} (hcolor : Plain color) (isError : Bool) (label : RowLabel) :
    (rowLabel (colored theme color isError) label).Draws
      (labelElements (colored theme color isError) label) := by
  unfold rowLabel labelElements
  split
  · exact Xml.reads_empty
  · refine draws_of_reads ?_ (Xml.reads_text_element (by decide)
      (attributesDenote_before (inert_colored htheme hcolor isError .label) ?_ ?_)
      (Xml.denotes_escaped label.text))
    · simp
    · simp; decide
    · simp; decide

theorem draws_row {r : Row} (hcolor : Plain r.color) (hitWidth : Float32) :
    (row theme hitWidth r).Draws [rowElement theme hitWidth r] := by
  have hbar : Reads _ [barElement theme r] := Xml.reads_empty_element (by decide)
    (attributesDenote_before (inert_colored htheme hcolor r.node.isError .bar)
      (by simp [boxValues]; decide) (by simp [boxValues]; decide))
  have htitle : Reads _ [titleElement r] := Xml.reads_text_element (by decide)
    (attributesDenote_plain (by simp) (by simp)) (Xml.denotes_escaped r.node.label)
  have hhit : Reads _ [hitElement theme hitWidth r] := Xml.reads_element (by decide)
    (attributesDenote_before (inert_colored htheme hcolor r.node.isError .hitArea)
      (by simp; decide) (by simp; decide)) htitle
  have hlabel := draws_rowLabel htheme hcolor r.node.isError r.label
  have hid : AttributesDenote [("data-span-id", Xml.escaped r.node.id)] [("data-span-id", r.node.id)] :=
    ⟨.cons ⟨rfl, (by decide : IsName "data-span-id"), Xml.denotes_escaped _⟩ .nil, by simp⟩
  refine draws_of_reads ?_ (Xml.reads_element (by decide) hid (hbar.append (hhit.append hlabel)))
  simp [row, box, boxValues, render_append]

theorem draws_connector (c : Connector) : (connector theme c).Draws [connectorElement theme c] := by
  refine draws_of_reads ?_ (Xml.reads_empty_element (by decide)
    (attributesDenote_around (inert_plain htheme .connector) ?_ ?_))
  · simp [connector]
  · simp [plain_pathData]; decide
  · simp; decide

theorem draws_rows {rows : List Row} (hrows : ∀ r ∈ rows, Plain r.color) (hitWidth : Float32) :
    Draws (rows.flatMap (row theme hitWidth)) (rows.map (rowElement theme hitWidth)) := by
  rw [List.map_eq_flatMap]
  exact draws_flatMap fun r hr => draws_row htheme (hrows r hr) hitWidth

theorem draws_connectors (connectors : List Connector) :
    Draws (connectors.flatMap (connector theme)) (connectors.map (connectorElement theme)) := by
  rw [List.map_eq_flatMap]
  exact draws_flatMap fun c _ => draws_connector htheme c

theorem draws_chart {l : TraceLayout} (hrows : ∀ r ∈ l.rows, Plain r.color) :
    (chart theme l).Draws [chartElement theme l] := by
  have hchildren := (draws_rows htheme hrows ((l.axis.map (·.width)).getD 0)).append
    (draws_connectors htheme l.connectors)
  refine draws_of_reads ?_ (Xml.reads_element (by decide) (attributesDenote_plain ?_ ?_) hchildren)
  · unfold chart shift shiftValue
    simp [render_append]
  · simp [shiftValue]; decide
  · simp [shiftValue]

theorem reads_background :
    Reads ("<rect width=\"100%\" height=\"100%\" fill=\"" ++ theme.background ++ "\"/>")
      [backgroundElement theme] := by
  have hread : Reads _ [backgroundElement theme] := Xml.reads_empty_element (by decide)
    (attributesDenote_plain (by simp [htheme.background]; decide) (by simp))
  have htext : "<rect width=\"100%\" height=\"100%\" fill=\"" ++ theme.background ++ "\"/>" =
      Xml.tag "rect" [("width", "100%"), ("height", "100%"), ("fill", theme.background)] ++ "/>" := by
    apply String.toList_injective
    simp
  rw [htext]
  exact hread

/-- The content is read as its elements. -/
theorem draws_content {l : TraceLayout} (hl : l.Inert) (config : LayoutConfig) :
    (content theme config l).Draws (contentElements theme config l) := by
  unfold content contentElements
  split
  · next e _ => exact draws_diagnostic htheme e
  · have haxis : Draws ((l.axis.map (axis theme config l)).getD [])
        (l.axis.map (axisElement theme config l)).toList := by
      cases l.axis with
      | none => exact Xml.reads_empty
      | some a => exact draws_axis htheme config l a
    exact (((draws_arrowhead htheme).append (draws_legend htheme hl.legend)).append haxis).append
      (draws_chart htheme hl.rows)

end Elements

/-- **The picture of a layout is read as its document.** -/
theorem read_renderSvg {l : TraceLayout} {theme : Theme} (htheme : theme.Inert) (hl : l.Inert)
    (config : LayoutConfig) : Xml.read (renderSvg l theme config) = some (documentElement l theme config) := by
  have hchildren := (reads_background htheme).append (draws_content htheme hl config)
  have hattributes : AttributesDenote (documentElement l theme config).attributes _ :=
    attributesDenote_plain (by simp [documentElement]; decide) (by simp [documentElement])
  have hread := Xml.reads_element (by decide : IsName "svg") hattributes hchildren
  refine Xml.read_eq_some (draws_of_reads ?_ hread)
  rw [ofLayout_eq]
  generalize content theme config l = picture
  simp [opening, closing, documentElement, render_append]

end Picture

end Waterfall
