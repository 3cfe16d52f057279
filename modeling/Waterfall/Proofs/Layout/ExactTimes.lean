import Waterfall.Layout.Row
import Waterfall.Proofs.Layout.AxisEnd
import Waterfall.Proofs.Number.WholeDouble
import Waterfall.Proofs.Trace.Forest

/-!
# Times of an accepted trace

The layout computes durations, offsets and ends of bars with arithmetic that stops at the ends of the
range of times. The checks of a trace refuse exactly what could reach those ends: an accepted span ends
within range of its own start and of the earliest one, and its own start lies between the two. So every
stopping operation gives the exact value (`measured_ofSpans`), and what the axis and the rows compute
from the values is exact as well.
-/

namespace Waterfall

/-- The times at which some span ends. -/
def endTimes (spans : List Span) : Set Int := {t | ∃ s ∈ spans, s.endTime = t}

theorem exists_isGreatest_endTimes {spans : List Span} (h : spans ≠ []) :
    ∃ last, IsGreatest (endTimes spans) last := by
  cases hmax : (spans.map (·.endTime)).max? with
  | none => simp [List.max?_eq_none_iff, h] at hmax
  | some last =>
    obtain ⟨hmem, hle⟩ := List.max?_eq_some_iff.mp hmax
    refine ⟨last, by simpa [endTimes] using hmem, ?_⟩
    rintro t ⟨s, hs, rfl⟩
    exact hle _ (List.mem_map_of_mem hs)

/-- A node that holds the times of a span exactly, counted from the origin of its trace. -/
structure Measured (origin : Int) (s : Span) (n : Node) : Prop where
  duration : n.duration = s.endTime - s.startTime
  startOffset : n.startOffset = s.startTime - origin
  endOffset : n.endOffset = s.endTime - origin

/-! ## Nodes -/

section Nodes

variable {spans : List Span} {policy : RootPolicy}

/-- Each duration, offset and end of an accepted span is in range, so that nothing stops short. -/
theorem measured_ofSpan (h : IsForest spans policy) {s : Span} (hs : s ∈ spans) (row : Nat)
    (color : String) :
    Measured (earliest spans) s (Node.ofSpan (earliest spans) row color s) := by
  have hleast := isLeast_earliest h.nonempty
  obtain ⟨hduration, hend⟩ := h.measurable _ hleast s hs
  have hstart : earliest spans ≤ s.startTime := hleast.2 ⟨s, hs, rfl⟩
  have hle := h.ordered s hs
  -- The start lies between the origin and the end, whose distance is in range.
  have hoffset : Time.fits (s.startTime - earliest spans) := by
    rw [Time.fits_iff] at hend ⊢
    have : Time.least ≤ 0 := by decide
    omega
  have hsum : s.startTime - earliest spans + (s.endTime - s.startTime) =
      s.endTime - earliest spans := by omega
  refine ⟨Time.clamp_of_fits hduration, Time.clamp_of_fits hoffset, ?_⟩
  simp only [Node.endOffset, Node.ofSpan, Time.clamp_of_fits hduration, Time.clamp_of_fits hoffset,
    hsum, Time.clamp_of_fits hend]

theorem measured_ofSpans (h : IsForest spans policy) (palette : List String) {row : Nat} {s : Span}
    (hs : spans[row]? = some s) :
    ∃ n, (Node.ofSpans spans palette).1[row]? = some n ∧ Measured (earliest spans) s n := by
  obtain ⟨color, hn⟩ := Node.getElem?_ofSpans palette hs
  exact ⟨_, hn, measured_ofSpan h (List.mem_of_getElem? hs) row color⟩

/-- Every node belongs to a span. -/
theorem exists_measured (h : IsForest spans policy) {palette : List String} {n : Node}
    (hn : n ∈ (Node.ofSpans spans palette).1) :
    ∃ s ∈ spans, Measured (earliest spans) s n := by
  obtain ⟨row, hrow⟩ := List.getElem?_of_mem hn
  have hlt : row < spans.length := by
    have := (List.getElem?_eq_some_iff.mp hrow).1
    rwa [Node.length_ofSpans] at this
  obtain ⟨n', hn', hm⟩ := measured_ofSpans h palette (List.getElem?_eq_getElem hlt)
  obtain rfl : n = n' := by simpa [hrow] using hn'
  exact ⟨_, List.getElem_mem hlt, hm⟩

/-- The earliest span stands at offset zero. -/
theorem exists_startOffset_zero (h : IsForest spans policy) (palette : List String) :
    ∃ n ∈ (Node.ofSpans spans palette).1, n.startOffset = 0 := by
  obtain ⟨s, hs, hstart⟩ := (isLeast_earliest h.nonempty).1
  obtain ⟨row, hrow⟩ := List.getElem?_of_mem hs
  obtain ⟨n, hn, hm⟩ := measured_ofSpans h palette hrow
  refine ⟨n, List.mem_of_getElem? hn, ?_⟩
  rw [hm.startOffset]
  omega

/-- The extent of the axis is the time from the earliest start to the latest end. -/
theorem extent_ofSpans (h : IsForest spans policy) (palette : List String) {last : Int}
    (hlast : IsGreatest (endTimes spans) last) :
    Axis.extent (Node.ofSpans spans palette).1 = last - earliest spans := by
  refine (Axis.isGreatest_extent _).unique ⟨?_, ?_⟩
  · obtain ⟨s, hs, hend⟩ := hlast.1
    obtain ⟨row, hrow⟩ := List.getElem?_of_mem hs
    obtain ⟨n, hn, hm⟩ := measured_ofSpans h palette hrow
    refine Or.inr ⟨n, List.mem_of_getElem? hn, ?_⟩
    rw [← hend, ← hm.endOffset]
    rfl
  · rintro t (rfl | ⟨n, hn, rfl⟩)
    · obtain ⟨s, hs, hstart⟩ := (isLeast_earliest h.nonempty).1
      have := h.ordered s hs
      have : s.endTime ≤ last := hlast.2 ⟨s, hs, rfl⟩
      omega
    · obtain ⟨s, hs, hm⟩ := exists_measured h hn
      have hend : s.endTime ≤ last := hlast.2 ⟨s, hs, rfl⟩
      show n.endOffset ≤ last - earliest spans
      rw [hm.endOffset]
      omega

/-- Traces that run between the same two times share their axis. -/
theorem axis_eq_of_same_times {spans' : List Span} {policy' : RootPolicy} (h : IsForest spans policy)
    (h' : IsForest spans' policy') (hstart : earliest spans = earliest spans') {last : Int}
    (hlast : IsGreatest (endTimes spans) last) (hlast' : IsGreatest (endTimes spans') last)
    (palette : List String) (width : Float32) :
    Axis.ofNodes (Node.ofSpans spans palette).1 width =
      Axis.ofNodes (Node.ofSpans spans' palette).1 width := by
  rw [Axis.ofNodes, Axis.ofNodes, extent_ofSpans h palette hlast, extent_ofSpans h' palette hlast', hstart]

end Nodes

/-! ## Main statement -/

/-- What a layout pass over spans between `origin` and `last` computes from their times. -/
structure TimesExact (spans : List Span) (origin last : Int) (nodes : List Node) (axis : Axis)
    (rows : List Row) : Prop where
  length_nodes : nodes.length = spans.length
  length_rows : rows.length = spans.length
  measured : ∀ (row : Nat) s n, spans[row]? = some s → nodes[row]? = some n → Measured origin s n
  /-- A node lies between the two ends of its axis. -/
  within : ∀ n ∈ nodes, 0 ≤ n.startOffset ∧ n.startOffset ≤ n.startOffset + n.duration ∧
    n.startOffset + n.duration ≤ axis.maxExtent
  at_origin : ∃ n ∈ nodes, n.startOffset = 0
  maxExtent_eq : axis.maxExtent = last - origin
  maxExtent_le : axis.maxExtent ≤ axis.axisMax
  one_le : 1 ≤ axis.axisMax
  /-- The divisor of every pixel. -/
  divisor_pos : 0 < doubleOfInt axis.axisMax
  /-- Both edges of a bar are the pixels of the exact times. -/
  bars : ∀ (row : Nat) s r, spans[row]? = some s → rows[row]? = some r →
    r.barX = axis.toPixel (s.startTime - origin) ∧
    r.barWidth = larger (axis.toPixel (s.endTime - origin) - axis.toPixel (s.startTime - origin)) 0

/-- **No arithmetic of a layout pass over an accepted trace stops at the ends of the range of times.**
Durations, offsets and ends are the exact differences, in the nodes, on the axis and in the rows; every
node lies on the axis, and pixels are never divided by zero. -/
theorem times_exact_of_validate_ok {spans : List Span} {policy : RootPolicy}
    (hok : validate spans policy = .ok ()) (palette : List String) (width : Float32) (theme : Theme)
    (config : LayoutConfig) :
    ∃ origin last, IsLeast (startTimes spans) origin ∧ IsGreatest (endTimes spans) last ∧
      TimesExact spans origin last (Node.ofSpans spans palette).1
        (Axis.ofNodes (Node.ofSpans spans palette).1 width)
        (Row.ofNodes (Node.ofSpans spans palette).1
          (Axis.ofNodes (Node.ofSpans spans palette).1 width) theme config) := by
  have h := validate_eq_ok_iff_isForest.mp hok
  obtain ⟨last, hlast⟩ := exists_isGreatest_endTimes h.nonempty
  have hleast := isLeast_earliest h.nonempty
  have hextent := extent_ofSpans h palette hlast
  have hnonneg := Axis.extent_nonneg (Node.ofSpans spans palette).1
  have hmost := Axis.extent_le_most (Node.ofSpans spans palette).1
  have hend := Axis.isEndOf_axisMax hnonneg width
  have hone := Axis.one_le_axisMax (Axis.extent (Node.ofSpans spans palette).1) width
  refine ⟨earliest spans, last, hleast, hlast, Node.length_ofSpans .., ?_, ?_, ?_,
    exists_startOffset_zero h palette, hextent, hend.le_stop, hone, ?_, ?_⟩
  · rw [Row.length_ofNodes, Node.length_ofSpans]
  · intro row s n hs hn
    obtain ⟨n', hn', hm⟩ := measured_ofSpans h palette hs
    obtain rfl : n = n' := by simpa [hn] using hn'
    exact hm
  · intro n hn
    obtain ⟨s, hs, hm⟩ := exists_measured h hn
    have hstart : earliest spans ≤ s.startTime := hleast.2 ⟨s, hs, rfl⟩
    have hstop : s.endTime ≤ last := hlast.2 ⟨s, hs, rfl⟩
    have hle := h.ordered s hs
    show _ ∧ _ ∧ _ ≤ Axis.extent (Node.ofSpans spans palette).1
    rw [hextent, hm.startOffset, hm.duration]
    omega
  · refine zero_lt_doubleOfInt hone ?_
    have := hend.stop_le_most hmost
    have : Time.most < 2 ^ 63 := by decide
    show (Axis.ofExtent _ width).axisMax < 2 ^ 63
    omega
  · intro row s r hs hr
    obtain ⟨n, hn, hm⟩ := measured_ofSpans h palette hs
    rw [Row.getElem?_ofNodes, hn] at hr
    obtain rfl := Option.some.inj hr
    simp only [Row.ofNode, hm.startOffset, hm.endOffset]
    exact ⟨trivial, trivial⟩

theorem nestedCalls_times_exact :
    validate nestedCalls .reject = .ok () ∧
    ∃ origin last, IsLeast (startTimes nestedCalls) origin ∧ IsGreatest (endTimes nestedCalls) last ∧
      TimesExact nestedCalls origin last (Node.ofSpans nestedCalls []).1
        (Axis.ofNodes (Node.ofSpans nestedCalls []).1 800)
        (Row.ofNodes (Node.ofSpans nestedCalls []).1
          (Axis.ofNodes (Node.ofSpans nestedCalls []).1 800) .classic {}) :=
  ⟨validate_nestedCalls, times_exact_of_validate_ok validate_nestedCalls [] 800 .classic {}⟩

end Waterfall
