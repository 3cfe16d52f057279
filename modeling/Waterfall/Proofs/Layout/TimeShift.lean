import Waterfall.Layout.Dump
import Waterfall.Proofs.Layout.Equivariance
import Waterfall.Svg.Picture

/-!
# Traces at another time

A trace can be recorded at any time; what is drawn of it is the same. All times of a trace moved by one
amount give the layout that the trace had, but for the absolute times that its nodes repeat
(`TraceLayout.shifted`), and neither the picture nor the dump has those in it.

Nothing bounds the amount here. Times may pass zero or come to lie at an end of the range of times, where
a difference that was stopped short would show.
-/

namespace Waterfall

/-! ## Moved times -/

/-- The span with its times moved. -/
def Span.shifted (amount : Int) (s : Span) : Span :=
  { s with startTime := s.startTime + amount, endTime := s.endTime + amount }

/-- The row with the times of its node moved. -/
def Row.shifted (amount : Int) (r : Row) : Row :=
  { r with node := { r.node with
      startTime := r.node.startTime + amount
      endTime := r.node.endTime + amount } }

/-- The layout with the times of its nodes moved, and all else as it is. -/
def TraceLayout.shifted (amount : Int) (l : TraceLayout) : TraceLayout :=
  { l with rows := l.rows.map (Row.shifted amount) }

/-- Every id keeps its name, and times are moved. -/
def Recasting.ofShift (amount : Int) : Recasting := ⟨id, amount⟩

namespace Recasting

variable (amount : Int)

theorem keepsApart_ofShift (spans : List Span) : (ofShift amount).KeepsApart spans :=
  Set.injOn_id _

theorem span_ofShift : (ofShift amount).span = Span.shifted amount := by
  funext s
  simp [span, ofShift, Span.shifted]

theorem row_ofShift : (ofShift amount).row = Row.shifted amount := by
  funext r
  simp [row, node, ofShift, Row.shifted]

theorem layout_ofShift (l : TraceLayout) : (ofShift amount).layout l = l.shifted amount := by
  have hconnector : (ofShift amount).connector = id := rfl
  rw [layout, row_ofShift, hconnector, List.map_id]
  rfl

end Recasting

/-! ## The pass over a moved trace -/

theorem validate_shifted {spans : List Span} {policy : RootPolicy} (amount : Int)
    (hok : validate spans policy = .ok ()) : validate (spans.map (Span.shifted amount)) policy = .ok () := by
  have hrecast := Recasting.validate_recast (Recasting.keepsApart_ofShift amount spans) policy
  rw [Recasting.span_ofShift, hok] at hrecast
  exact hrecast

theorem TraceLayout.compute_shifted {spans : List Span} {theme : Theme} {config : LayoutConfig}
    {containerWidth : Float32} {layout : TraceLayout} (amount : Int)
    (hok : compute spans theme config containerWidth = .ok layout) :
    compute (spans.map (Span.shifted amount)) theme config containerWidth = .ok (layout.shifted amount) := by
  have hrecast := Recasting.compute_recast (Recasting.keepsApart_ofShift amount spans) theme config
    containerWidth
  rw [Recasting.span_ofShift, hok] at hrecast
  rw [hrecast, ← Recasting.layout_ofShift]
  rfl

/-! ## Picture and dump -/

/-- No piece of a picture is made from an absolute time. -/
theorem Picture.ofLayout_shifted (amount : Int) (l : TraceLayout) (theme : Theme) (config : LayoutConfig) :
    Picture.ofLayout (l.shifted amount) theme config = Picture.ofLayout l theme config := by
  have hrows : ∀ hitWidth, (l.rows.map (Row.shifted amount)).flatMap (row theme hitWidth) =
      l.rows.flatMap (row theme hitWidth) := by
    intro hitWidth
    rw [List.flatMap_map]
    rfl
  have hchart : chart theme (l.shifted amount) = chart theme l := by
    simp only [chart, TraceLayout.shifted, hrows]
  rw [ofLayout, hchart]
  rfl

theorem TraceLayout.dump_shifted (amount : Int) (l : TraceLayout) : (l.shifted amount).dump = l.dump := by
  have hrows : (l.rows.map (Row.shifted amount)).map Row.toJson = l.rows.map Row.toJson := by
    rw [List.map_map]
    rfl
  unfold dump toJson
  rw [← hrows]
  rfl

/-! ## Main statement -/

/-- **A trace looks the same at any time.** With all its times moved by one amount an accepted trace is
accepted, has the same layout but for the times of its nodes, and the same dump and picture. -/
theorem moved_trace_drawn_alike (spans : List Span) (amount : Int) :
    (∀ policy, validate spans policy = .ok () →
      validate (spans.map (Span.shifted amount)) policy = .ok ()) ∧
    ∀ (theme : Theme) (config : LayoutConfig) (containerWidth : Float32),
      validate spans config.rootPolicy = .ok () →
      ∃ layout, TraceLayout.compute spans theme config containerWidth = .ok layout ∧
        TraceLayout.compute (spans.map (Span.shifted amount)) theme config containerWidth =
          .ok (layout.shifted amount) ∧
        (layout.shifted amount).dump = layout.dump ∧
        ∀ (styles : StyleResolvers) (theme' : Theme) (config' : LayoutConfig),
          renderSvgWith styles (layout.shifted amount) theme' config' =
            renderSvgWith styles layout theme' config' := by
  refine ⟨fun _ hok => validate_shifted amount hok, ?_⟩
  intro theme config containerWidth hok
  have hlayout : TraceLayout.compute spans theme config containerWidth = .ok _ :=
    TraceLayout.compute_of_ok hok
  refine ⟨_, hlayout, TraceLayout.compute_shifted amount hlayout, TraceLayout.dump_shifted amount _, ?_⟩
  intro styles theme' config'
  rw [renderSvgWith, Picture.ofLayout_shifted]
  rfl

/-- Calls that began before time zero, moved until the last of them ends at the end of the range. -/
theorem nestedCalls_moved_to_most :
    validate nestedCalls .reject = .ok () ∧
    (∀ s ∈ nestedCalls.map (Span.shifted (Time.most - 9)),
      Time.fits s.startTime = true ∧ Time.fits s.endTime = true) ∧
    validate (nestedCalls.map (Span.shifted (Time.most - 9))) .reject = .ok () ∧
    ∃ layout, TraceLayout.compute nestedCalls .classic { rootPolicy := .reject } 800 = .ok layout ∧
      TraceLayout.compute (nestedCalls.map (Span.shifted (Time.most - 9))) .classic
        { rootPolicy := .reject } 800 = .ok (layout.shifted (Time.most - 9)) := by
  obtain ⟨hvalid, hdrawn⟩ := moved_trace_drawn_alike nestedCalls (Time.most - 9)
  obtain ⟨layout, hlayout, hmoved, -, -⟩ :=
    hdrawn .classic { rootPolicy := .reject } 800 validate_nestedCalls
  exact ⟨validate_nestedCalls, by decide, hvalid .reject validate_nestedCalls, layout, hlayout, hmoved⟩

end Waterfall
