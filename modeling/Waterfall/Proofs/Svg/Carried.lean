import Waterfall.Proofs.Layout.Palette
import Waterfall.Proofs.Svg.Shape

/-!
# What the picture of a layout carries

Every element that stands for a part of a layout has a class or the id of a span. These marked elements
are found anywhere in the document (`Element.marked`), so that a statement about all bars of a document
is one about all its elements, and not about places where bars are expected.

`TraceLayout.CarriedBy` says which rows, connectors, actors and messages they show. The document of a
computed layout carries the layout; together with the shape of the document, which no text has a part
in, that is what `svg_carries_layout` says of the text of the picture.
-/

namespace Waterfall

open Xml (Plain Element)

/-! ## Marked elements -/

namespace Xml.Element

theorem allOf_cons (e : Element) (rest : List Element) :
    allOf (e :: rest) = e :: (allOf e.children ++ allOf rest) := by
  obtain ⟨name, attributes, text, children⟩ := e
  simp [allOf, all]

theorem allOf_append (es es' : List Element) : allOf (es ++ es') = allOf es ++ allOf es' := by
  induction es with
  | nil => simp [allOf]
  | cons e rest ih => simp [allOf_cons, ih]

def hasClass (c : String) (e : Element) : Bool := e.value? "class" == some c

/-- The element stands for a span. -/
def hasSpanId (e : Element) : Bool := (e.value? "data-span-id").isSome

/-- The element is marked by a class or by the id of a span. -/
def isMarked (e : Element) : Bool := (e.value? "class").isSome || e.hasSpanId

/-- The marked elements among some elements and all elements inside them. -/
def marked (es : List Element) : List Element := (allOf es).filter isMarked

@[simp] theorem marked_nil : marked [] = [] := by
  simp [marked, allOf]

@[simp] theorem marked_cons (e : Element) (rest : List Element) :
    marked (e :: rest) = (if e.isMarked then [e] else []) ++ (marked e.children ++ marked rest) := by
  unfold marked
  rw [allOf_cons, List.filter_cons, List.filter_append]
  split <;> simp

@[simp] theorem marked_append (es es' : List Element) : marked (es ++ es') = marked es ++ marked es' := by
  rw [marked, allOf_append, List.filter_append]
  rfl

theorem marked_flatMap {α : Type} (items : List α) (f : α → List Element) :
    marked (items.flatMap f) = items.flatMap fun a => marked (f a) := by
  induction items with
  | nil => exact marked_nil
  | cons a rest ih => rw [List.flatMap_cons, marked_append, ih, List.flatMap_cons]

@[simp] theorem isMarked_mk (name : String) (attributes : List (String × String)) (text : String)
    (children : List Element) : isMarked ⟨name, attributes, text, children⟩ =
      ((attributes.lookup "class").isSome || (attributes.lookup "data-span-id").isSome) := rfl

/-- Elements of a class are found among the marked ones. -/
theorem filter_hasClass_all (c : String) (e : Element) :
    e.all.filter (hasClass c) = (marked [e]).filter (hasClass c) := by
  have hall : allOf [e] = e.all := by simp [allOf]
  rw [marked, hall, List.filter_filter]
  refine List.filter_congr fun x _ => ?_
  cases hx : hasClass c x with
  | false => rfl
  | true =>
    have hvalue : x.value? "class" = some c := by simpa [hasClass] using hx
    simp [isMarked, hvalue]

theorem filter_hasSpanId_all (e : Element) :
    e.all.filter hasSpanId = (marked [e]).filter hasSpanId := by
  have hall : allOf [e] = e.all := by simp [allOf]
  rw [marked, hall, List.filter_filter]
  refine List.filter_congr fun x _ => ?_
  cases hx : hasSpanId x <;> simp [isMarked, hx]

end Xml.Element

open Xml.Element (marked)

namespace Picture

section Marked

variable (theme : Theme)

theorem lookup_styled {key : String} (hkey : key ∉ StyleAttributes.names) (kind : ElementKind)
    (ctx : StyleContext) : (styled kind ctx).lookup key = none := by
  rw [List.lookup_eq_none_iff]
  intro p hp
  have hname := (StyleAttributes.keys_values_sublist _).subset (List.mem_map_of_mem hp)
  simpa using fun heq : key = p.1 => hkey (heq ▸ hname)

@[simp] theorem lookup_class_styled (kind : ElementKind) (ctx : StyleContext) :
    (styled kind ctx).lookup "class" = none :=
  lookup_styled (by decide) kind ctx

@[simp] theorem lookup_spanId_styled (kind : ElementKind) (ctx : StyleContext) :
    (styled kind ctx).lookup "data-span-id" = none :=
  lookup_styled (by decide) kind ctx

theorem marked_chipElements (c : Chip) : marked (chipElements theme c) = [] := by
  simp [chipElements, boxValues, List.lookup_cons]

theorem marked_tickElements (length : Float32) (t : Tick) : marked (tickElements theme length t) = [] := by
  simp [tickElements, List.lookup_cons]

theorem marked_arrowhead : marked [arrowheadElement theme] = [] := by
  simp [arrowheadElement, markerElement, arrowElement, List.lookup_cons]

theorem marked_diagnostic (e : ErrorPanel) :
    marked [diagnosticElement theme e] = [diagnosticElement theme e] := by
  simp [diagnosticElement]

theorem marked_legend (chips : List Chip) :
    marked [legendElement theme chips] = [legendElement theme chips] := by
  simp [legendElement, Xml.Element.marked_flatMap, marked_chipElements]

theorem marked_axis (config : LayoutConfig) (l : TraceLayout) (a : Axis) :
    marked [axisElement theme config l a] = [axisElement theme config l a] := by
  simp [axisElement, axisLineElement, List.lookup_cons, Xml.Element.marked_flatMap, marked_tickElements]

theorem marked_row (hitWidth : Float32) (r : Row) : marked [rowElement theme hitWidth r] =
    [rowElement theme hitWidth r, barElement theme r, hitElement theme hitWidth r] := by
  have hlabel : ∀ ctx, marked (labelElements ctx r.label) = [] := by
    intro ctx
    unfold labelElements
    split <;> simp [List.lookup_cons]
  simp [rowElement, barElement, hitElement, titleElement, hlabel]

theorem marked_connector (c : Connector) :
    marked [connectorElement theme c] = [connectorElement theme c] := by
  simp [connectorElement]

theorem marked_rows (hitWidth : Float32) (rows : List Row) :
    marked (rows.map (rowElement theme hitWidth)) = rows.flatMap fun r =>
      [rowElement theme hitWidth r, barElement theme r, hitElement theme hitWidth r] := by
  rw [List.map_eq_flatMap, Xml.Element.marked_flatMap]
  simp only [marked_row]

theorem marked_connectors (connectors : List Connector) :
    marked (connectors.map (connectorElement theme)) = connectors.map (connectorElement theme) := by
  rw [List.map_eq_flatMap, Xml.Element.marked_flatMap]
  simp only [marked_connector]

/-- The width of the areas that react to the pointer. -/
def hitWidth (l : TraceLayout) : Float32 := (l.axis.map (·.width)).getD 0

theorem marked_chart (l : TraceLayout) : marked [chartElement theme l] = chartElement theme l ::
    ((l.rows.flatMap fun r => [rowElement theme (hitWidth l) r, barElement theme r,
        hitElement theme (hitWidth l) r]) ++
      l.connectors.map (connectorElement theme)) := by
  have hmarked : (chartElement theme l).isMarked = true := rfl
  have hchildren : marked (chartElement theme l).children =
      (l.rows.flatMap fun r => [rowElement theme (hitWidth l) r, barElement theme r,
        hitElement theme (hitWidth l) r]) ++ l.connectors.map (connectorElement theme) := by
    show marked (l.rows.map (rowElement theme (hitWidth l)) ++ l.connectors.map (connectorElement theme)) = _
    rw [Xml.Element.marked_append, marked_rows, marked_connectors]
  rw [Xml.Element.marked_cons, Xml.Element.marked_nil, hmarked, hchildren, List.append_nil]
  rfl

variable (config : LayoutConfig) {l : TraceLayout}

/-- The document and its background have no marks. -/
theorem marked_document :
    marked [documentElement l theme config] = marked (contentElements theme config l) := by
  simp [documentElement, backgroundElement, List.lookup_cons]

/-- The marked elements of the document of a trace. -/
theorem marked_document_of_none (h : l.error = none) :
    marked [documentElement l theme config] =
      [legendElement theme l.legend] ++ (l.axis.map (axisElement theme config l)).toList ++
        [chartElement theme l] ++
        (l.rows.flatMap fun r => [rowElement theme (hitWidth l) r, barElement theme r,
          hitElement theme (hitWidth l) r]) ++
        l.connectors.map (connectorElement theme) := by
  have hcontent : contentElements theme config l =
      [arrowheadElement theme] ++ [legendElement theme l.legend] ++
        (l.axis.map (axisElement theme config l)).toList ++ [chartElement theme l] := by
    simp [contentElements, h]
  have haxis : marked (l.axis.map (axisElement theme config l)).toList =
      (l.axis.map (axisElement theme config l)).toList := by
    cases l.axis with
    | none => rfl
    | some a => exact marked_axis theme config l a
  rw [marked_document, hcontent]
  simp only [Xml.Element.marked_append, marked_arrowhead, marked_legend, haxis, marked_chart]
  simp

/-- The marked elements of the document of an error panel. -/
theorem marked_document_of_some {e : ErrorPanel} (h : l.error = some e) :
    marked [documentElement l theme config] = [diagnosticElement theme e] := by
  have hcontent : contentElements theme config l = [diagnosticElement theme e] := by
    simp [contentElements, h]
  rw [marked_document, hcontent, marked_diagnostic]

end Marked

/-! ## Points of connectors -/

/-- A point as it stands in a path. -/
def pointText (p : Point) : String := twoPlaces p.x ++ " " ++ twoPlaces p.y

/-- A path moves to its first point and draws lines through the others. -/
theorem pathData_cons (p : Point) (rest : List Point) :
    pathData (p :: rest) = "M " ++ " L ".intercalate ((p :: rest).map pointText) := by
  have hlines : ∀ p : Point, pointText p ++
      String.join (rest.map fun q => " L " ++ twoPlaces q.x ++ " " ++ twoPlaces q.y) =
        " L ".intercalate ((p :: rest).map pointText) := by
    induction rest with
    | nil => intro p; simp
    | cons q rest ih =>
      intro p
      rw [List.map_cons, List.map_cons, String.join_cons, List.map_cons, String.intercalate_cons_cons,
        ← List.map_cons, ← ih q]
      simp [pointText, String.append_assoc]
  rw [← hlines p]
  simp [pathData, pointText, String.append_assoc]

end Picture

namespace Connector

theorem continueFrom_ne_nil {passed : List Point} {segments : List Segment}
    (h : passed ≠ [] ∨ segments ≠ []) : continueFrom passed segments ≠ [] := by
  fun_induction continueFrom passed segments <;> simp_all

/-- A computed route has points. -/
theorem points_ne_nil {c : Connector} {config : LayoutConfig} {parent child : Point}
    (h : (c.route, c.segments) = between config parent child) : c.points ≠ [] := by
  obtain ⟨parentId, childId, route, segments⟩ := c
  unfold between at h
  simp only at h
  split at h
  · obtain ⟨rfl, rfl⟩ := Prod.mk.inj h
    simp [points, polyline?, leftSegments]
  · obtain ⟨rfl, rfl⟩ := Prod.mk.inj h
    exact continueFrom_ne_nil (.inr (by simp [directSegments]))

end Connector

/-! ## What a document carries -/

/-- The elements that show a row. -/
structure DrawnRow where
  group : Element
  bar : Element
  hit : Element

/-- The elements show the row: a group with its id, in it the bar, the area that reacts to the pointer,
titled with the full label, the text of the label as it was cut unless it is empty, and nothing else. -/
structure Row.ShownBy (r : Row) (d : DrawnRow) : Prop where
  group_name : d.group.name = "g"
  id : d.group.value? "data-span-id" = some r.node.id
  parts : ∃ labels, d.group.children = d.bar :: d.hit :: labels ∧
    labels.map (fun e => (e.name, e.text)) = if r.label.text = "" then [] else [("text", r.label.text)]
  bar_name : d.bar.name = "rect"
  bar_box : d.bar.value? "x" = some (twoPlaces r.barX) ∧ d.bar.value? "y" = some (twoPlaces r.rowY) ∧
    d.bar.value? "width" = some (twoPlaces r.barWidth) ∧
    d.bar.value? "height" = some (twoPlaces r.barHeight)
  bar_empty : d.bar.children = []
  hit_name : d.hit.name = "rect"
  title : ∃ title, d.hit.children = [title] ∧ title.name = "title" ∧ title.text = r.node.label ∧
    title.children = []

/-- The element shows the connector: a path from its first point through all others, in order. -/
structure Connector.ShownBy (c : Connector) (e : Element) : Prop where
  name : e.name = "path"
  points : c.points ≠ []
  path : e.value? "d" = some ("M " ++ " L ".intercalate (c.points.map Picture.pointText))

/-- The document shows the layout. What stands for rows, for bars and for areas that react to the
pointer, for connectors, actors and the message is looked for in the whole document. -/
structure TraceLayout.CarriedBy (l : TraceLayout) (doc : Element) : Prop where
  rows : ∃ drawn : List DrawnRow, List.Forall₂ Row.ShownBy l.rows drawn ∧
    doc.all.filter Element.hasSpanId = drawn.map (·.group) ∧
    doc.all.filter (Element.hasClass "bar") = drawn.map (·.bar) ∧
    doc.all.filter (Element.hasClass "hit") = drawn.map (·.hit)
  actors : ((doc.all.filter (Element.hasClass "legend")).flatMap fun legend =>
    (legend.children.filter (·.name == "text")).map (·.text)) = l.legend.map (·.actor)
  connectors : List.Forall₂ Connector.ShownBy l.connectors (doc.all.filter (Element.hasClass "connector"))
  message : (doc.all.filter (Element.hasClass "diagnostic")).map (·.text) = (l.error.map (·.message)).toList

namespace Picture

section Carried

variable (theme : Theme)

theorem row_shownBy (hitWidth : Float32) (r : Row) :
    r.ShownBy ⟨rowElement theme hitWidth r, barElement theme r, hitElement theme hitWidth r⟩ where
  group_name := rfl
  id := rfl
  parts := by
    refine ⟨labelElements (colored theme r.color r.node.isError) r.label, rfl, ?_⟩
    unfold labelElements
    by_cases h : r.label.text = "" <;> simp [h]
  bar_name := rfl
  bar_box := ⟨rfl, rfl, rfl, rfl⟩
  bar_empty := rfl
  hit_name := rfl
  title := ⟨titleElement r, rfl, rfl, rfl, rfl⟩

theorem connector_shownBy {c : Connector} (h : c.points ≠ []) : c.ShownBy (connectorElement theme c) where
  name := rfl
  points := h
  path := by
    obtain ⟨p, rest, hpoints⟩ := List.exists_cons_of_ne_nil h
    have hvalue : (connectorElement theme c).value? "d" = some (pathData c.points) := rfl
    rw [hvalue, hpoints, pathData_cons]

/-- The actors are the texts between the chips. -/
theorem actors_legend (chips : List Chip) :
    ((legendElement theme chips).children.filter (·.name == "text")).map (·.text) =
      chips.map (·.actor) := by
  induction chips with
  | nil => rfl
  | cons c rest ih => simpa [legendElement, chipElements] using ih

variable (config : LayoutConfig) {l : TraceLayout}

@[simp] theorem hasClass_legendElement (c : String) (chips : List Chip) :
    Element.hasClass c (legendElement theme chips) = ("legend" == c) := rfl

@[simp] theorem hasClass_chartElement (c : String) :
    Element.hasClass c (chartElement theme l) = ("rows" == c) := rfl

@[simp] theorem hasClass_rowElement (c : String) (hitWidth : Float32) (r : Row) :
    Element.hasClass c (rowElement theme hitWidth r) = false := rfl

@[simp] theorem hasClass_barElement (c : String) (r : Row) :
    Element.hasClass c (barElement theme r) = ("bar" == c) := rfl

@[simp] theorem hasClass_hitElement (c : String) (hitWidth : Float32) (r : Row) :
    Element.hasClass c (hitElement theme hitWidth r) = ("hit" == c) := rfl

@[simp] theorem hasClass_connectorElement (c : String) (k : Connector) :
    Element.hasClass c (connectorElement theme k) = ("connector" == c) := rfl

theorem hasSpanId_barElement (r : Row) : (barElement theme r).hasSpanId = false := by
  simp [Element.hasSpanId, Element.value?, barElement, boxValues, List.lookup_cons]

theorem hasSpanId_hitElement (hitWidth : Float32) (r : Row) :
    (hitElement theme hitWidth r).hasSpanId = false := by
  simp [Element.hasSpanId, Element.value?, hitElement, List.lookup_cons]

/-- What is marked in one of several ways, among the elements of a trace. -/
theorem filter_marked_document (h : l.error = none) (p : Element → Bool)
    (haxis : ∀ a, p (axisElement theme config l a) = false) :
    (marked [documentElement l theme config]).filter p =
      [legendElement theme l.legend].filter p ++ [chartElement theme l].filter p ++
        (l.rows.flatMap fun r => [rowElement theme (hitWidth l) r, barElement theme r,
          hitElement theme (hitWidth l) r].filter p) ++
        (l.connectors.map (connectorElement theme)).filter p := by
  have hnone : (l.axis.map (axisElement theme config l)).toList.filter p = [] := by
    cases l.axis <;> simp [haxis]
  rw [marked_document_of_none theme config h]
  simp only [List.filter_append, List.filter_flatMap, hnone, List.append_nil]

/-- What is marked in a way that only elements of rows are. -/
theorem filter_marked_rows (h : l.error = none) {p : Element → Bool}
    (hlegend : p (legendElement theme l.legend) = false)
    (haxis : ∀ a, p (axisElement theme config l a) = false)
    (hchart : p (chartElement theme l) = false) (hconnector : ∀ c, p (connectorElement theme c) = false)
    {part : Row → Element} (hpart : ∀ r, [rowElement theme (hitWidth l) r, barElement theme r,
      hitElement theme (hitWidth l) r].filter p = [part r]) :
    (marked [documentElement l theme config]).filter p = l.rows.map part := by
  have hconnectors : (l.connectors.map (connectorElement theme)).filter p = [] := by
    simp [hconnector]
  rw [filter_marked_document theme config h p haxis, hconnectors, List.map_eq_flatMap]
  simp [hlegend, hchart, hpart]

/-- The document of a trace carries it. -/
theorem carriedBy_of_none (h : l.error = none) (hpoints : ∀ c ∈ l.connectors, c.points ≠ []) :
    l.CarriedBy (documentElement l theme config) := by
  refine ⟨⟨l.rows.map fun r => ⟨rowElement theme (hitWidth l) r, barElement theme r,
    hitElement theme (hitWidth l) r⟩, ?_, ?_, ?_, ?_⟩, ?_, ?_, ?_⟩
  · exact List.forall₂_map_right_iff.mpr (List.forall₂_same.mpr fun r _ => row_shownBy theme (hitWidth l) r)
  · rw [Xml.Element.filter_hasSpanId_all, List.map_map]
    refine filter_marked_rows theme config h rfl (fun _ => rfl) rfl (fun _ => rfl) fun r => ?_
    have hgroup : (rowElement theme (hitWidth l) r).hasSpanId = true := rfl
    simp [hgroup, hasSpanId_barElement, hasSpanId_hitElement]
  · rw [Xml.Element.filter_hasClass_all, List.map_map]
    exact filter_marked_rows theme config h rfl (fun _ => rfl) rfl (fun _ => rfl) fun _ => rfl
  · rw [Xml.Element.filter_hasClass_all, List.map_map]
    exact filter_marked_rows theme config h rfl (fun _ => rfl) rfl (fun _ => rfl) fun _ => rfl
  · rw [Xml.Element.filter_hasClass_all, filter_marked_document theme config h _ fun a => rfl]
    simp [actors_legend]
  · have hpaths : (documentElement l theme config).all.filter (Element.hasClass "connector") =
        l.connectors.map (connectorElement theme) := by
      have hall : (l.connectors.map (connectorElement theme)).filter (Element.hasClass "connector") =
          l.connectors.map (connectorElement theme) := List.filter_eq_self.mpr (by simp)
      have hrows : (l.rows.flatMap fun r => [rowElement theme (hitWidth l) r, barElement theme r,
          hitElement theme (hitWidth l) r].filter (Element.hasClass "connector")) = [] :=
        List.flatMap_eq_nil_iff.mpr (by simp)
      rw [Xml.Element.filter_hasClass_all, filter_marked_document theme config h _ fun a => rfl, hall, hrows]
      rfl
    rw [hpaths, List.forall₂_map_right_iff, List.forall₂_same]
    exact fun c hc => connector_shownBy theme (hpoints c hc)
  · rw [Xml.Element.filter_hasClass_all, filter_marked_document theme config h _ fun a => rfl]
    simp [h]

/-- The document of an error panel carries its message, and there is nothing else to carry. -/
theorem carriedBy_of_some {e : ErrorPanel} (h : l.error = some e) (hrows : l.rows = [])
    (hconnectors : l.connectors = []) (hlegend : l.legend = []) :
    l.CarriedBy (documentElement l theme config) := by
  have hclass : ∀ c, (documentElement l theme config).all.filter (Element.hasClass c) =
      [diagnosticElement theme e].filter (Element.hasClass c) := by
    intro c
    rw [Xml.Element.filter_hasClass_all, marked_document_of_some theme config h]
  refine ⟨⟨[], ?_, ?_, ?_, ?_⟩, ?_, ?_, ?_⟩
  · rw [hrows]
    exact .nil
  · rw [Xml.Element.filter_hasSpanId_all, marked_document_of_some theme config h]
    rfl
  · rw [hclass]
    rfl
  · rw [hclass]
    rfl
  · rw [hclass, hlegend]
    rfl
  · rw [hclass, hconnectors]
    exact .nil
  · rw [hclass, h]
    rfl

end Carried

end Picture

/-! ## Main statement -/

namespace TraceLayout

variable (spans : List Span) (theme : Theme) (config : LayoutConfig) (containerWidth : Float32)

theorem points_ne_nil_of_mem_connectors :
    ∀ c ∈ (ofValid spans theme config containerWidth).connectors, c.points ≠ [] := by
  intro c hc
  obtain ⟨node, -, hnode⟩ := List.mem_filterMap.mp hc
  simp only [connectorTo?, Option.bind_eq_bind, Option.bind_eq_some_iff] at hnode
  obtain ⟨parentId, -, parent, -, child, -, hc⟩ := hnode
  obtain rfl := Option.some.inj hc
  exact Connector.points_ne_nil rfl

variable {theme}

/-- Layouts take their colours from their theme. -/
theorem inert_computeOrError (htheme : theme.Inert) :
    (computeOrError spans theme config containerWidth).Inert := by
  have hplain : ∀ color, ActorColors.FromPalette theme.palette color → Plain color := by
    rintro color (hmem | rfl)
    · exact htheme.palette color hmem
    · decide
  cases hvalid : validate spans config.rootPolicy with
  | error d =>
    rw [computeOrError_of_error hvalid]
    exact ⟨by simp [ofMessage], by simp [ofMessage]⟩
  | ok =>
    rw [computeOrError_of_ok hvalid]
    exact ⟨fun r hr => hplain _ (fromPalette_rows spans theme config containerWidth r hr),
      fun c hc => hplain _ (fromPalette_legend spans theme config containerWidth c hc)⟩

end TraceLayout

/-- The document of a computed layout carries it. -/
theorem carriedBy_computeOrError (theme : Theme) (config : LayoutConfig) (spans : List Span)
    (layoutTheme : Theme) (layoutConfig : LayoutConfig) (containerWidth : Float32) :
    (TraceLayout.computeOrError spans layoutTheme layoutConfig containerWidth).CarriedBy
      (Picture.documentElement
        (TraceLayout.computeOrError spans layoutTheme layoutConfig containerWidth) theme config) := by
  cases hvalid : validate spans layoutConfig.rootPolicy with
  | error d =>
    rw [TraceLayout.computeOrError_of_error hvalid]
    exact Picture.carriedBy_of_some theme config rfl rfl rfl rfl
  | ok =>
    rw [TraceLayout.computeOrError_of_ok hvalid]
    exact Picture.carriedBy_of_none theme config rfl
      (TraceLayout.points_ne_nil_of_mem_connectors spans layoutTheme layoutConfig containerWidth)

/-- **The picture of a layout carries it.** The built-in themes are inert. With inert themes the text of
the picture is read as a document that shows every row, connector, actor and message with its own text;
and whatever the texts are, layouts of one shape have documents of one shape. -/
theorem svg_carries_layout :
    (∀ {name : String} {t : Theme}, Theme.byName? name = some t → t.Inert) ∧
    ∀ {layoutTheme theme : Theme}, layoutTheme.Inert → theme.Inert →
      ∀ (spans : List Span) (layoutConfig config : LayoutConfig) (containerWidth : Float32) (l : TraceLayout),
        l = TraceLayout.computeOrError spans layoutTheme layoutConfig containerWidth →
        ∃ doc, Xml.read (renderSvg l theme config) = some doc ∧ l.CarriedBy doc ∧
          ∀ l' : TraceLayout, l'.Inert → l.SameShape l' →
            ∃ doc', Xml.read (renderSvg l' theme config) = some doc' ∧ doc'.shape = doc.shape := by
  refine ⟨Theme.inert_of_byName?, ?_⟩
  rintro layoutTheme theme hlayoutTheme htheme spans layoutConfig config containerWidth l rfl
  have hinert := TraceLayout.inert_computeOrError spans layoutConfig containerWidth hlayoutTheme
  refine ⟨_, Picture.read_renderSvg htheme hinert config,
    carriedBy_computeOrError theme config spans layoutTheme layoutConfig containerWidth, ?_⟩
  intro l' hinert' hshape
  exact ⟨_, Picture.read_renderSvg htheme hinert' config,
    (Picture.shape_documentElement theme theme config config hshape).symm⟩

/-- Texts that would change the document if one of them were written as it is. -/
def hostileTexts : List Span := [
  { id := "\"/><rect class=\"bar", parentId := none, startTime := 0, endTime := 9,
    label := "</title></rect></g><g>", actor := "&lt;</text><text>" },
  { id := "&quot;", parentId := some "\"/><rect class=\"bar", startTime := 1, endTime := 2,
    label := "<![CDATA[", actor := "'<!--", isError := true }]

theorem hostileTexts_carried :
    validate hostileTexts .disconnected = .ok () ∧
    ∃ doc, Xml.read (renderSvg (.computeOrError hostileTexts .classic {} 800) .modern {}) = some doc ∧
      (TraceLayout.computeOrError hostileTexts .classic {} 800).CarriedBy doc := by
  have hclassic : Theme.classic.Inert :=
    svg_carries_layout.1 (show Theme.byName? "classic" = some .classic from rfl)
  have hmodern : Theme.modern.Inert :=
    svg_carries_layout.1 (show Theme.byName? "modern" = some .modern from rfl)
  obtain ⟨doc, hread, hcarried, -⟩ := svg_carries_layout.2 hclassic hmodern hostileTexts {} {} 800 _ rfl
  exact ⟨rfl, doc, hread, hcarried⟩

end Waterfall
