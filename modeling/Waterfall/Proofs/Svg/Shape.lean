import Waterfall.Proofs.Svg.Document

/-!
# The shape of the document of a layout

The shape of an element is what is left of it without its texts and the values of its attributes: the
names of elements and attributes and how elements are nested. The document of a layout owes its shape to
the numbers of chips, ticks, rows and connectors, to which rows are errors and to which labels are empty.
What an id, a label, an actor or a message says has no part in it.
-/

namespace Waterfall

open Xml (Element)

/-! ## Shapes -/

namespace Xml.Element

mutual
/-- The element without its texts and the values of its attributes. -/
def shape : Element → Element
  | ⟨name, attributes, _, children⟩ =>
    ⟨name, attributes.map fun a => (a.1, ""), "", shapeOf children⟩

/-- The shapes of elements. -/
def shapeOf : List Element → List Element
  | [] => []
  | e :: rest => e.shape :: shapeOf rest
end

theorem shapeOf_eq_map (es : List Element) : shapeOf es = es.map shape := by
  induction es with
  | nil => rfl
  | cons e rest ih => rw [shapeOf, ih, List.map_cons]

/-- An attribute without its value. -/
def blank (a : String × String) : String × String := (a.1, "")

@[simp] theorem blank_mk (name value : String) : blank (name, value) = (name, "") := rfl

@[simp] theorem shape_mk (name : String) (attributes : List (String × String)) (text : String)
    (children : List Element) : shape ⟨name, attributes, text, children⟩ =
      ⟨name, attributes.map blank, "", children.map shape⟩ := by
  rw [shape, shapeOf_eq_map]
  rfl

/-- Lists of elements with the same shapes. -/
def SameShapes (es es' : List Element) : Prop := es.map shape = es'.map shape

theorem SameShapes.append {es es' fs fs' : List Element} (h : SameShapes es es')
    (h' : SameShapes fs fs') : SameShapes (es ++ fs) (es' ++ fs') := by
  rw [SameShapes, List.map_append, List.map_append, h, h']

theorem sameShapes_flatMap {α : Type} {R : α → α → Prop} {f g : α → List Element} {as bs : List α}
    (h : List.Forall₂ R as bs) (hshapes : ∀ a b, R a b → SameShapes (f a) (g b)) :
    SameShapes (as.flatMap f) (bs.flatMap g) := by
  induction h with
  | nil => rfl
  | cons hab _ ih => exact (hshapes _ _ hab).append ih

end Xml.Element

open Xml.Element (SameShapes)

/-- The layouts have as many of everything, errors in the same rows and empty labels in the same rows. -/
structure TraceLayout.SameShape (l l' : TraceLayout) : Prop where
  error : l.error.isSome = l'.error.isSome
  axis : l.axis.isSome = l'.axis.isSome
  ticks : l.ticks.length = l'.ticks.length
  legend : l.legend.length = l'.legend.length
  connectors : l.connectors.length = l'.connectors.length
  rows : List.Forall₂ (fun r r' => r.node.isError = r'.node.isError ∧
    r.label.text.isEmpty = r'.label.text.isEmpty) l.rows l'.rows

namespace Picture

open Xml.Element (blank)

/-- The attributes that have a value, without it. -/
theorem map_blank_given (settings : List (String × Option String)) :
    (StyleAttributes.given settings).map blank =
      (settings.map fun (name, value) => (name, value.isSome)).filterMap fun (name, isSet) =>
        if isSet then some (name, "") else none := by
  simp only [StyleAttributes.given, List.map_filterMap, List.filterMap_map]
  refine List.filterMap_congr ?_
  rintro ⟨name, value⟩ -
  cases value <;> rfl

/-- Which attributes a style sets depends on the kind of element, on whether there is a colour and on
the error flag. -/
theorem map_blank_styled {ctx ctx' : StyleContext} (hcolor : ctx.color.isSome = ctx'.color.isSome)
    (herror : ctx.isError = ctx'.isError) (kind : ElementKind) :
    (styled kind ctx).map blank = (styled kind ctx').map blank := by
  have hset : (StyleResolvers.standard.resolve kind ctx).settings.map
        (fun (name, value) => (name, value.isSome)) =
      (StyleResolvers.standard.resolve kind ctx').settings.map
        (fun (name, value) => (name, value.isSome)) := by
    cases kind with
    | bar =>
      simp [StyleAttributes.settings, StyleResolvers.resolve, StyleResolvers.standard,
        StyleResolver.standard, StyleResolver.bar, hcolor, herror]
      cases ctx'.isError <;> simp
    | _ =>
      simp [StyleAttributes.settings, StyleResolvers.resolve, StyleResolvers.standard,
        StyleResolver.standard, StyleResolver.hitArea, StyleResolver.text, StyleResolver.line,
        StyleResolver.axisTick, StyleResolver.legendChip, hcolor]
  rw [styled, styled, StyleAttributes.values, StyleAttributes.values, map_blank_given, map_blank_given,
    hset]

section Parts

variable (theme theme' : Theme)

theorem map_blank_styled_plain (kind : ElementKind) :
    (styled kind (plain theme)).map blank = (styled kind (plain theme')).map blank := by
  apply map_blank_styled
  · rfl
  · rfl

theorem map_blank_styled_colored (color color' : String) (isError : Bool) (kind : ElementKind) :
    (styled kind (colored theme color isError)).map blank =
      (styled kind (colored theme' color' isError)).map blank := by
  apply map_blank_styled
  · rfl
  · rfl

theorem sameShapes_chip (c c' : Chip) : SameShapes (chipElements theme c) (chipElements theme' c') := by
  have hchip := map_blank_styled_colored theme theme' c.color c'.color false .legendChip
  have hlabel := map_blank_styled_colored theme theme' c.color c'.color false .legendLabel
  simp [SameShapes, chipElements, boxValues, hchip, hlabel]

theorem sameShapes_tick (length length' : Float32) (t t' : Tick) :
    SameShapes (tickElements theme length t) (tickElements theme' length' t') := by
  have hline := map_blank_styled_plain theme theme' .axisLine
  have htext := map_blank_styled_plain theme theme' .axisTick
  simp [SameShapes, tickElements, hline, htext]

theorem sameShapes_row (hitWidth hitWidth' : Float32) {r r' : Row}
    (herror : r.node.isError = r'.node.isError)
    (hlabel : r.label.text.isEmpty = r'.label.text.isEmpty) :
    SameShapes [rowElement theme hitWidth r] [rowElement theme' hitWidth' r'] := by
  have hstyle := map_blank_styled_colored theme theme' r.color r'.color r'.node.isError
  have htext : SameShapes (labelElements (colored theme r.color r'.node.isError) r.label)
      (labelElements (colored theme' r'.color r'.node.isError) r'.label) := by
    unfold labelElements
    rw [hlabel]
    split
    · rfl
    · simp [SameShapes, hstyle .label]
  rw [SameShapes] at htext
  simp [SameShapes, rowElement, barElement, hitElement, titleElement, boxValues, herror, hstyle, htext]

theorem sameShapes_connector (c c' : Connector) :
    SameShapes [connectorElement theme c] [connectorElement theme' c'] := by
  simp [SameShapes, connectorElement, map_blank_styled_plain theme theme' .connector]

theorem sameShapes_diagnostic (e e' : ErrorPanel) :
    SameShapes [diagnosticElement theme e] [diagnosticElement theme' e'] := by
  simp [SameShapes, diagnosticElement, map_blank_styled_plain theme theme' .diagnostic]

theorem sameShapes_legend {chips chips' : List Chip} (h : chips.length = chips'.length) :
    SameShapes [legendElement theme chips] [legendElement theme' chips'] := by
  have hpairs : List.Forall₂ (fun _ _ => True) chips chips' :=
    List.forall₂_iff_zip.mpr ⟨h, fun _ => trivial⟩
  have hchips := Xml.Element.sameShapes_flatMap hpairs fun c c' _ => sameShapes_chip theme theme' c c'
  rw [SameShapes] at hchips
  simp [SameShapes, legendElement, hchips]

theorem sameShapes_axis (config config' : LayoutConfig) {l l' : TraceLayout}
    (h : l.ticks.length = l'.ticks.length) (a a' : Axis) :
    SameShapes [axisElement theme config l a] [axisElement theme' config' l' a'] := by
  have hpairs : List.Forall₂ (fun _ _ => True) l.ticks l'.ticks :=
    List.forall₂_iff_zip.mpr ⟨h, fun _ => trivial⟩
  have hticks := Xml.Element.sameShapes_flatMap hpairs fun t t' _ =>
    sameShapes_tick theme theme' (tickLength config) (tickLength config') t t'
  have hline := map_blank_styled_plain theme theme' .axisLine
  rw [SameShapes] at hticks
  simp [SameShapes, axisElement, axisLineElement, shiftValue, hline, hticks]

theorem sameShapes_chart {l l' : TraceLayout} (h : l.SameShape l') :
    SameShapes [chartElement theme l] [chartElement theme' l'] := by
  have hpairs : List.Forall₂ (fun _ _ => True) l.connectors l'.connectors :=
    List.forall₂_iff_zip.mpr ⟨h.connectors, fun _ => trivial⟩
  have hconnectors := Xml.Element.sameShapes_flatMap hpairs fun c c' _ =>
    sameShapes_connector theme theme' c c'
  have hrows := Xml.Element.sameShapes_flatMap h.rows fun r r' hr =>
    sameShapes_row theme theme' ((l.axis.map (·.width)).getD 0) ((l'.axis.map (·.width)).getD 0) hr.1 hr.2
  rw [← List.map_eq_flatMap, ← List.map_eq_flatMap] at hconnectors hrows
  have hchildren := hrows.append hconnectors
  rw [SameShapes] at hchildren
  simp [SameShapes, chartElement, shiftValue] at hchildren ⊢
  exact hchildren

theorem sameShapes_arrowhead : SameShapes [arrowheadElement theme] [arrowheadElement theme'] := by
  simp [SameShapes, arrowheadElement, markerElement, arrowElement]

theorem sameShapes_content (config config' : LayoutConfig) {l l' : TraceLayout} (h : l.SameShape l') :
    SameShapes (contentElements theme config l) (contentElements theme' config' l') := by
  have herror := h.error
  unfold contentElements
  cases he : l.error with
  | some e =>
    cases he' : l'.error with
    | none => simp [he, he'] at herror
    | some e' => exact sameShapes_diagnostic theme theme' e e'
  | none =>
    cases he' : l'.error with
    | some e' => simp [he, he'] at herror
    | none =>
      have haxis : SameShapes (l.axis.map (axisElement theme config l)).toList
          (l'.axis.map (axisElement theme' config' l')).toList := by
        have hsome := h.axis
        cases ha : l.axis <;> cases ha' : l'.axis
        · rfl
        · simp [ha, ha'] at hsome
        · simp [ha, ha'] at hsome
        · exact sameShapes_axis theme theme' config config' h.ticks _ _
      have hlegend := sameShapes_legend theme theme' h.legend
      exact (((sameShapes_arrowhead theme theme').append hlegend).append haxis).append
        (sameShapes_chart theme theme' h)

end Parts

/-- **Texts have no part in the shape of a document.** -/
theorem shape_documentElement (theme theme' : Theme) (config config' : LayoutConfig)
    {l l' : TraceLayout} (h : l.SameShape l') :
    (documentElement l theme config).shape = (documentElement l' theme' config').shape := by
  have hcontent := sameShapes_content theme theme' config config' h
  rw [SameShapes] at hcontent
  simp [documentElement, backgroundElement, hcontent]

end Picture

end Waterfall
