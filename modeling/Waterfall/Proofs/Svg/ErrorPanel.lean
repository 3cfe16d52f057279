import Waterfall.Proofs.Svg.Document
import Waterfall.Proofs.Layout.Connection

/-!
# Error panels

A list of spans either is a trace and is laid out in full, or it is drawn as its defect and nothing else.
The two are told apart by the message, by the rows and by the axis alike. The picture of a defect has the
message over the background and no other element.
-/

namespace Waterfall

open Xml (Element)

/-! ## Either a defect or a trace -/

/-- The layout shows this defect and nothing else. -/
structure TraceLayout.ShowsOnly (l : TraceLayout) (d : Defect) : Prop where
  message : l.error.map (·.message) = some ("invalid trace structure: " ++ d.message)
  rows : l.rows = []
  connectors : l.connectors = []
  ticks : l.ticks = []
  legend : l.legend = []
  axis : l.axis = none

/-- The layout shows a trace and no message. -/
structure TraceLayout.ShowsTrace (l : TraceLayout) : Prop where
  error : l.error = none
  rows : l.rows ≠ []
  axis : l.axis.isSome

namespace TraceLayout

variable (spans : List Span) (theme : Theme) (config : LayoutConfig) (containerWidth : Float32)

theorem showsOnly_of_error {d : Defect} (h : validate spans config.rootPolicy = .error d) :
    (computeOrError spans theme config containerWidth).ShowsOnly d := by
  rw [computeOrError_of_error h]
  exact ⟨rfl, rfl, rfl, rfl, rfl, rfl⟩

theorem showsTrace_of_ok (h : validate spans config.rootPolicy = .ok ()) :
    (computeOrError spans theme config containerWidth).ShowsTrace := by
  rw [computeOrError_of_ok h]
  refine ⟨rfl, ?_, rfl⟩
  intro hrows
  have hids := map_id_rows (rfl : ofValid spans theme config containerWidth = _)
  rw [hrows, List.map_nil] at hids
  exact (validate_eq_ok_iff_isForest.mp h).nonempty (List.map_eq_nil_iff.mp hids.symm)

/-- Message, rows and axis agree on which of the two a layout shows. -/
theorem shows_cases :
    (∃ d, validate spans config.rootPolicy = .error d ∧
      (computeOrError spans theme config containerWidth).ShowsOnly d) ∨
    (validate spans config.rootPolicy = .ok () ∧
      (computeOrError spans theme config containerWidth).ShowsTrace) := by
  cases h : validate spans config.rootPolicy with
  | error d => exact .inl ⟨d, rfl, showsOnly_of_error spans theme config containerWidth h⟩
  | ok => exact .inr ⟨rfl, showsTrace_of_ok spans theme config containerWidth h⟩

end TraceLayout

/-! ## The picture of a defect -/

namespace Picture

/-- The root, the background of the theme, and a message in the place and the style given. -/
def panelText (width height x y : Float32) (background style message : String) : String :=
  "<svg xmlns=\"http://www.w3.org/2000/svg\" width=\"" ++ textOfSingle width ++ "\" height=\"" ++
    textOfSingle height ++ "\" viewBox=\"0 0 " ++ textOfSingle width ++ " " ++ textOfSingle height ++ "\">" ++
  "<rect width=\"100%\" height=\"100%\" fill=\"" ++ background ++ "\"/>" ++
  "<text class=\"diagnostic\" x=\"" ++ twoPlaces x ++ "\" y=\"" ++ twoPlaces y ++ "\"" ++ style ++ ">" ++
    Xml.escaped message ++ "</text>" ++
  "</svg>"

/-- The picture of a panel is that text, in any styles. -/
theorem renderSvgWith_of_error {l : TraceLayout} {e : ErrorPanel} (h : l.error = some e)
    (styles : StyleResolvers) (theme : Theme) (config : LayoutConfig) :
    renderSvgWith styles l theme config =
      panelText l.width l.height e.textX e.textY theme.background
        (styles.resolve .diagnostic (plain theme)).toSvg e.message := by
  have hcontent : content theme config l = diagnostic theme e := by
    simp only [content, h]
  rw [renderSvgWith, ofLayout_eq, hcontent]
  apply String.toList_injective
  unfold panelText
  simp [opening, diagnostic, closing, StyleAttributes.toSvg, Xml.inTag]

/-- The document has two elements, the background and the message. -/
structure IsDefectDocument (doc : Element) (theme : Theme) (message : String) : Prop where
  name : doc.name = "svg"
  text : doc.text = ""
  children : ∃ background label, doc.children = [background, label] ∧
    (background.name = "rect" ∧ background.value? "fill" = some theme.background ∧
      background.text = "" ∧ background.children = []) ∧
    (label.name = "text" ∧ label.value? "class" = some "diagnostic" ∧ label.text = message ∧
      label.children = [])

theorem isDefectDocument_of_error {l : TraceLayout} {e : ErrorPanel} (h : l.error = some e)
    (theme : Theme) (config : LayoutConfig) :
    IsDefectDocument (documentElement l theme config) theme e.message where
  name := rfl
  text := rfl
  children := by
    have hcontent : contentElements theme config l = [diagnosticElement theme e] := by
      simp only [contentElements, h]
    refine ⟨backgroundElement theme, diagnosticElement theme e, ?_, ⟨rfl, rfl, rfl, rfl⟩,
      ⟨rfl, rfl, rfl, rfl⟩⟩
    simp only [documentElement, hcontent]

end Picture

/-! ## Main statement -/

/-- The picture of the layout is the defect over the background, in any styles; with an inert theme it is
read as a document of these two elements. -/
structure TraceLayout.DrawnAsDefect (l : TraceLayout) (d : Defect) (theme : Theme)
    (config : LayoutConfig) : Prop where
  text : ∃ x y : Float32, ∀ styles : StyleResolvers, renderSvgWith styles l theme config =
    Picture.panelText l.width l.height x y theme.background
      (styles.resolve .diagnostic (Picture.plain theme)).toSvg ("invalid trace structure: " ++ d.message)
  document : theme.Inert → ∃ doc, Xml.read (renderSvg l theme config) = some doc ∧
    Picture.IsDefectDocument doc theme ("invalid trace structure: " ++ d.message)

theorem TraceLayout.ShowsOnly.drawnAsDefect {l : TraceLayout} {d : Defect} (h : l.ShowsOnly d)
    (theme : Theme) (config : LayoutConfig) : l.DrawnAsDefect d theme config := by
  obtain ⟨e, herror, hmessage⟩ := Option.map_eq_some_iff.mp h.message
  constructor
  · refine ⟨e.textX, e.textY, fun styles => ?_⟩
    rw [Picture.renderSvgWith_of_error herror, hmessage]
  · intro htheme
    have hinert : l.Inert := ⟨by simp [h.rows], by simp [h.legend]⟩
    refine ⟨_, Picture.read_renderSvg htheme hinert config, ?_⟩
    rw [← hmessage]
    exact Picture.isDefectDocument_of_error herror theme config

/-- **All or nothing.** A list of spans that is no trace has a layout that shows its first defect and
nothing else, and a picture of the message over the background. A trace has its layout, without a
message. So a layout has a message, no rows and no axis, or none of the three. -/
theorem computeOrError_all_or_nothing (spans : List Span) (theme : Theme) (config : LayoutConfig)
    (containerWidth : Float32) :
    (∀ d, validate spans config.rootPolicy = .error d →
      (TraceLayout.computeOrError spans theme config containerWidth).ShowsOnly d ∧
      ∀ theme' config',
        (TraceLayout.computeOrError spans theme config containerWidth).DrawnAsDefect d theme' config') ∧
    (validate spans config.rootPolicy = .ok () →
      TraceLayout.compute spans theme config containerWidth =
        .ok (TraceLayout.computeOrError spans theme config containerWidth) ∧
      (TraceLayout.computeOrError spans theme config containerWidth).ShowsTrace) ∧
    ((TraceLayout.computeOrError spans theme config containerWidth).error.isSome ↔
      (TraceLayout.computeOrError spans theme config containerWidth).rows = []) ∧
    ((TraceLayout.computeOrError spans theme config containerWidth).rows = [] ↔
      (TraceLayout.computeOrError spans theme config containerWidth).axis = none) := by
  refine ⟨fun d h => ?_, fun h => ?_, ?_⟩
  · have hshows := TraceLayout.showsOnly_of_error spans theme config containerWidth h
    exact ⟨hshows, hshows.drawnAsDefect⟩
  · refine ⟨?_, TraceLayout.showsTrace_of_ok spans theme config containerWidth h⟩
    rw [TraceLayout.computeOrError_of_ok h]
    exact TraceLayout.compute_eq_ok_iff.mpr ⟨h, rfl⟩
  · rcases TraceLayout.shows_cases spans theme config containerWidth with ⟨d, -, h⟩ | ⟨-, h⟩
    · obtain ⟨e, herror, -⟩ := Option.map_eq_some_iff.mp h.message
      simp [herror, h.rows, h.axis]
    · simp [h.error, h.rows, Option.isSome_iff_ne_none.mp h.axis]

theorem mutualCalls_drawn_as_defect_nestedCalls_shown :
    (∃ d, validate mutualCalls .disconnected = .error d ∧
      (TraceLayout.computeOrError mutualCalls .classic {} 800).ShowsOnly d ∧
      (TraceLayout.computeOrError mutualCalls .classic {} 800).DrawnAsDefect d .classic {}) ∧
    (TraceLayout.computeOrError nestedCalls .classic { rootPolicy := .reject } 800).ShowsTrace := by
  have hdefect : validate mutualCalls .disconnected = .error (.parentAfterChild "b" "c" 1 2) := rfl
  have hmutual := computeOrError_all_or_nothing mutualCalls .classic {} 800
  have hnested := computeOrError_all_or_nothing nestedCalls .classic { rootPolicy := .reject } 800
  obtain ⟨hshows, hdrawn⟩ := hmutual.1 _ hdefect
  exact ⟨⟨_, hdefect, hshows, hdrawn .classic {}⟩, (hnested.2.1 validate_nestedCalls).2⟩

end Waterfall
