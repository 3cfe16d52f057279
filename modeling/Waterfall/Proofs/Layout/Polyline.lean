import Mathlib.Data.List.Chain
import Waterfall.Proofs.Layout.Connection
import Waterfall.Proofs.Number.SingleOrder

/-!
# Connectors as lines

The two routes are turned into points by different code: a direct one by leaving out points that repeat
the one before, a route to the left by taking its first segment backwards. Walked from the parent to the
child (`walk`), the segments of either route are a chain, and the points are the corners of that chain
(`polyline?_eq_corners`); equal neighbours do no harm, since a repeated point is compared with the end of
the segment before it and never with a corner farther back.

The comparison of points fails for coordinates that are no numbers, so the line is described for
segments between numbers only (`Connector.Traces`). That a line has points at all is true of all of them.
-/

namespace Waterfall

/-- Both coordinates are numbers. -/
def Point.IsNumber (p : Point) : Prop := p.x.isNaN = false ∧ p.y.isNaN = false

instance (p : Point) : Decidable p.IsNumber :=
  inferInstanceAs (Decidable (p.x.isNaN = false ∧ p.y.isNaN = false))

/-- The segment is upright or level. -/
def Segment.IsStraight (s : Segment) : Prop := s.start.x = s.stop.x ∨ s.start.y = s.stop.y

theorem Point.IsNumber.beq_self {p : Point} (h : p.IsNumber) : (p == p) = true := by
  show (p.x == p.x && p.y == p.y) = true
  rw [Single.beq_self_eq_true_iff.mpr h.1, Single.beq_self_eq_true_iff.mpr h.2]
  rfl

/-- How many segments a route has. -/
def Route.segmentCount : Route → Nat
  | .direct => 2
  | .leftOffset => 3

namespace Connector

/-! ## Chains of segments -/

/-- The segments in the direction of the line: the nudge of a route to the left is turned round. -/
def walk : Route → List Segment → List Segment
  | .leftOffset, nudge :: rest => ⟨nudge.stop, nudge.start, nudge.arrow⟩ :: rest
  | _, segments => segments

/-- Each segment starts where the one before it stopped. -/
def Chained (segments : List Segment) : Prop := segments.IsChain fun s t => s.stop = t.start

/-- The point where a chain starts, and those where its segments stop. -/
def corners : List Segment → List Point
  | [] => []
  | s :: rest => s.start :: s.stop :: rest.map (·.stop)

theorem length_walk (route : Route) (segments : List Segment) :
    (walk route segments).length = segments.length := by
  unfold walk
  split <;> rfl

/-- All segments but a nudge are walked as they are. -/
theorem getElem?_walk (route : Route) (segments : List Segment) {i : Nat}
    (h : route = .leftOffset → i ≠ 0) : (walk route segments)[i]? = segments[i]? := by
  unfold walk
  split
  · next nudge rest =>
    obtain ⟨j, rfl⟩ := Nat.exists_eq_succ_of_ne_zero (h rfl)
    rfl
  · rfl

theorem length_corners {segments : List Segment} (h : segments ≠ []) :
    (corners segments).length = segments.length + 1 := by
  cases segments with
  | nil => exact absurd rfl h
  | cons s rest => simp [corners]

/-- A segment of a chain joins the corner in its place and the next one. -/
theorem getElem?_corners {segments : List Segment} (h : Chained segments) {i : Nat} {s : Segment}
    (hs : segments[i]? = some s) :
    (corners segments)[i]? = some s.start ∧ (corners segments)[i + 1]? = some s.stop := by
  induction segments generalizing i with
  | nil => simp at hs
  | cons t rest ih =>
    cases i with
    | zero =>
      obtain rfl : t = s := by simpa using hs
      simp [corners]
    | succ i =>
      cases rest with
      | nil => simp at hs
      | cons u rest =>
        obtain ⟨hmeet, hrest⟩ := List.isChain_cons_cons.mp h
        have hcorners : corners (t :: u :: rest) = t.start :: corners (u :: rest) := by
          simp [corners, hmeet]
        simpa [hcorners] using ih hrest (by simpa using hs)

/-- Consecutive corners of a chain are the ends of one of its segments. -/
theorem exists_segment_of_corners {segments : List Segment} (h : Chained segments) {i : Nat} {p q : Point}
    (hp : (corners segments)[i]? = some p) (hq : (corners segments)[i + 1]? = some q) :
    ∃ s ∈ segments, s.start = p ∧ s.stop = q := by
  cases segments with
  | nil => simp [corners] at hp
  | cons t rest =>
    have hi : i < (t :: rest).length := by
      have := (List.getElem?_eq_some_iff.mp hq).1
      rw [length_corners (by simp)] at this
      omega
    obtain ⟨hstart, hstop⟩ := getElem?_corners h (List.getElem?_eq_getElem hi)
    refine ⟨_, List.getElem_mem hi, ?_, ?_⟩
    · simpa [hstart] using hp
    · simpa [hstop] using hq

/-! ## The points of a chain -/

/-- Going on along a chain from where it starts adds the end of each segment. -/
theorem continueFrom_of_chained {segments : List Segment} {p : Point} (passed : List Point)
    (hstart : ∀ s ∈ segments.head?, p = s.start) (hchain : Chained segments)
    (hnumbers : ∀ s ∈ segments, s.start.IsNumber) :
    continueFrom (p :: passed) segments = passed.reverse ++ p :: segments.map (·.stop) := by
  induction segments generalizing p passed with
  | nil => simp [continueFrom]
  | cons s rest ih =>
    obtain rfl := hstart s rfl
    -- The last point passed is where the segment starts, so only the end of the segment is added.
    have hself : (s.start == s.start) = true := (hnumbers s List.mem_cons_self).beq_self
    obtain ⟨hnext, hrest⟩ := List.isChain_cons.mp hchain
    rw [continueFrom, if_pos hself,
      ih (s.start :: passed) hnext hrest fun t ht => hnumbers t (List.mem_cons_of_mem s ht)]
    simp

/-- The points of a route that is a chain are its corners. -/
theorem polyline?_eq_corners {route : Route} {segments : List Segment} (hne : segments ≠ [])
    (hchain : Chained (walk route segments)) (hnumbers : ∀ s ∈ segments, s.start.IsNumber) :
    polyline? route segments = some (corners (walk route segments)) := by
  cases segments with
  | nil => exact absurd rfl hne
  | cons s rest =>
    cases route with
    | leftOffset => rfl
    | direct =>
      obtain ⟨hnext, hrest⟩ := List.isChain_cons.mp hchain
      exact congrArg some (continueFrom_of_chained [s.start] hnext hrest
        fun t ht => hnumbers t (List.mem_cons_of_mem s ht))

/-! ## Computed routes -/

section Between

variable {config : LayoutConfig} {parent child : Point} {route : Route} {segments : List Segment}

/-- A computed route has two segments or three, the latter exactly if the child starts too near. -/
theorem between_cases (h : (route, segments) = between config parent child) :
    (¬ child.x - parent.x < config.connectorThreshold ∧ route = .direct ∧
      segments = directSegments (exitPoint config parent) (entryPoint config child)) ∨
    (child.x - parent.x < config.connectorThreshold ∧ route = .leftOffset ∧ ∃ elbow,
      segments = leftSegments elbow (exitPoint config parent) (entryPoint config child)) := by
  simp only [between] at h
  split at h
  · next hnear =>
    obtain ⟨hroute, hsegments⟩ := Prod.mk.inj h
    exact .inr ⟨hnear, hroute, _, hsegments⟩
  · next hfar =>
    obtain ⟨hroute, hsegments⟩ := Prod.mk.inj h
    exact .inl ⟨hfar, hroute, hsegments⟩

theorem leftOffset_iff_of_between (h : (route, segments) = between config parent child) :
    route = .leftOffset ↔ child.x - parent.x < config.connectorThreshold := by
  obtain ⟨hfar, rfl, -⟩ | ⟨hnear, rfl, -⟩ := between_cases h
  · simp [hfar]
  · simp [hnear]

theorem length_of_between (h : (route, segments) = between config parent child) :
    segments.length = route.segmentCount := by
  obtain ⟨-, rfl, rfl⟩ | ⟨-, rfl, elbow, rfl⟩ := between_cases h <;> rfl

/-- Only the last segment has the arrowhead. -/
theorem map_arrow_of_between (h : (route, segments) = between config parent child) :
    segments.map (·.arrow) = List.replicate (segments.length - 1) false ++ [true] := by
  obtain ⟨-, rfl, rfl⟩ | ⟨-, rfl, elbow, rfl⟩ := between_cases h <;> rfl

theorem chained_of_between (h : (route, segments) = between config parent child) :
    Chained (walk route segments) := by
  obtain ⟨-, rfl, rfl⟩ | ⟨-, rfl, elbow, rfl⟩ := between_cases h <;>
    simp [Chained, walk, directSegments, leftSegments]

theorem isStraight_of_mem_walk (h : (route, segments) = between config parent child) :
    ∀ s ∈ walk route segments, s.IsStraight := by
  obtain ⟨-, rfl, rfl⟩ | ⟨-, rfl, elbow, rfl⟩ := between_cases h <;>
    simp [walk, directSegments, leftSegments, Segment.IsStraight]

/-- The line starts at the left edge of the parent's bar and ends in the middle of the child's. -/
theorem ends_corners_walk (h : (route, segments) = between config parent child) :
    (corners (walk route segments)).head?.map (·.x) = some parent.x ∧
      (corners (walk route segments)).getLast? = some (entryPoint config child) := by
  obtain ⟨-, rfl, rfl⟩ | ⟨-, rfl, elbow, rfl⟩ := between_cases h <;> exact ⟨rfl, rfl⟩

theorem polyline?_of_between (h : (route, segments) = between config parent child) :
    (polyline? route segments).isSome = true := by
  have hsome := polyline?_between_isSome config parent child
  rwa [← h] at hsome

end Between

/-! ## Main statement -/

/-- Every coordinate of the segments is a number. -/
def HasNumbers (c : Connector) : Prop := ∀ s ∈ c.segments, s.start.IsNumber ∧ s.stop.IsNumber

instance (c : Connector) : Decidable c.HasNumbers :=
  inferInstanceAs (Decidable (∀ s ∈ c.segments, s.start.IsNumber ∧ s.stop.IsNumber))

/-- The segments and the points of the connector are one line from the bar of the parent to the bar of
the child. -/
structure Traces (c : Connector) (config : LayoutConfig) (parent child : Point) : Prop where
  length_segments : c.segments.length = c.route.segmentCount
  length_points : c.points.length = c.segments.length + 1
  first : c.points.head?.map (·.x) = some parent.x
  last : c.points.getLast? = some ⟨child.x, child.y + config.barHeight / 2⟩
  straight : ∀ i p q, c.points[i]? = some p → c.points[i + 1]? = some q → p.x = q.x ∨ p.y = q.y
  nudge : c.route = .leftOffset → ∀ s, c.segments[0]? = some s →
    c.points[0]? = some s.stop ∧ c.points[1]? = some s.start
  forward : ∀ i s, c.segments[i]? = some s → (c.route = .leftOffset → i ≠ 0) →
    c.points[i]? = some s.start ∧ c.points[i + 1]? = some s.stop
  arrows : c.segments.map (·.arrow) = List.replicate (c.segments.length - 1) false ++ [true]

/-- The connector leads from a bar with the one anchor to a bar with the other. -/
structure LeadsBetween (c : Connector) (config : LayoutConfig) (parent child : Point) : Prop where
  leftOffset_iff : c.route = .leftOffset ↔ child.x - parent.x < config.connectorThreshold
  inRange : polyline? c.route c.segments = some c.points
  traces : c.HasNumbers → c.Traces config parent child

section Computed

variable {c : Connector} {config : LayoutConfig} {parent child : Point}

/-- The points of a connector between numbers are the corners of its walk. -/
theorem points_eq_corners (h : (c.route, c.segments) = between config parent child)
    (hnumbers : c.HasNumbers) : c.points = corners (walk c.route c.segments) := by
  have hne : c.segments ≠ [] := by
    obtain ⟨-, -, heq⟩ | ⟨-, -, elbow, heq⟩ := between_cases h <;> rw [heq] <;> exact List.cons_ne_nil _ _
  rw [points, polyline?_eq_corners hne (chained_of_between h) fun s hs => (hnumbers s hs).1]
  rfl

theorem traces_of_between (h : (c.route, c.segments) = between config parent child)
    (hnumbers : c.HasNumbers) : c.Traces config parent child := by
  have hpoints := points_eq_corners h hnumbers
  have hchain := chained_of_between h
  obtain ⟨hfirst, hlast⟩ := ends_corners_walk h
  refine ⟨length_of_between h, ?_, ?_, ?_, ?_, ?_, ?_, map_arrow_of_between h⟩ <;> rw [hpoints]
  · have hne : walk c.route c.segments ≠ [] := by
      intro hnil
      simp [hnil, corners] at hfirst
    rw [length_corners hne, length_walk]
  · exact hfirst
  · exact hlast
  · intro i p q hp hq
    obtain ⟨s, hs, rfl, rfl⟩ := exists_segment_of_corners hchain hp hq
    exact isStraight_of_mem_walk h s hs
  · intro hroute s hs
    obtain ⟨rest, hsegments⟩ : ∃ rest, c.segments = s :: rest :=
      List.head?_eq_some_iff.mp (by rwa [List.head?_eq_getElem?])
    have hturned : (walk c.route c.segments)[0]? = some ⟨s.stop, s.start, s.arrow⟩ := by
      rw [hroute, hsegments]
      rfl
    exact getElem?_corners hchain hturned
  · intro i s hs hforward
    exact getElem?_corners hchain (by rwa [getElem?_walk _ _ hforward])

theorem leadsBetween (h : (c.route, c.segments) = between config parent child) :
    c.LeadsBetween config parent child where
  leftOffset_iff := leftOffset_iff_of_between h
  inRange := by
    obtain ⟨points, hsome⟩ := Option.isSome_iff_exists.mp (polyline?_of_between h)
    rw [Connector.points, hsome]
    rfl
  traces := traces_of_between h

end Computed

end Connector

namespace TraceLayout

/-- Every connector of a computed layout is a computed route between two of its rows. -/
theorem exists_joins_of_mem_connectors {spans : List Span} {theme : Theme} {config : LayoutConfig}
    {containerWidth : Float32} {c : Connector}
    (hc : c ∈ (computeOrError spans theme config containerWidth).connectors) :
    ∃ parent ∈ (computeOrError spans theme config containerWidth).rows,
      ∃ child ∈ (computeOrError spans theme config containerWidth).rows, c.Joins config parent child := by
  cases hvalid : validate spans config.rootPolicy with
  | error d =>
    rw [computeOrError_of_error hvalid] at hc
    simp [ofMessage] at hc
  | ok =>
    rw [computeOrError_of_ok hvalid] at hc ⊢
    have hforest := validate_eq_ok_iff_isForest.mp hvalid
    have hlinked := linked_rows (rfl : ofValid spans theme config containerWidth = _) hforest
    rw [connectors_eq_filterMap rfl hforest] at hc
    obtain ⟨child, hchild, hconnector⟩ := List.mem_filterMap.mp hc
    cases hnamed : child.node.parentId with
    | none => simp [connectorTo?_eq_none config _ hnamed] at hconnector
    | some p =>
      obtain ⟨parent, hparent, rfl⟩ := hlinked.parent_mem child hchild p hnamed
      obtain ⟨c', hsome, hjoins⟩ := connectorTo?_eq_some config hlinked hparent hchild hnamed
      obtain rfl : c' = c := by simpa [hsome] using hconnector
      exact ⟨parent, hparent, child, hchild, hjoins⟩

end TraceLayout

/-- **Connectors are lines from bar to bar.** A connector with a computed route leads between the bars it
was computed for: its points are in range, and between numbers they follow its segments. All connectors
of all computed layouts are of this kind, each with the rows that it joins. -/
theorem connectors_lead_between_bars (config : LayoutConfig) :
    (∀ (c : Connector) (parent child : Point),
      (c.route, c.segments) = Connector.between config parent child → c.LeadsBetween config parent child) ∧
    ∀ (spans : List Span) (theme : Theme) (containerWidth : Float32) (l : TraceLayout),
      l = TraceLayout.computeOrError spans theme config containerWidth → ∀ c ∈ l.connectors,
        ∃ parent ∈ l.rows, ∃ child ∈ l.rows,
          c.Joins config parent child ∧ c.LeadsBetween config parent.anchor child.anchor := by
  refine ⟨fun c parent child => Connector.leadsBetween, ?_⟩
  rintro spans theme containerWidth l rfl c hc
  obtain ⟨parent, hparent, child, hchild, hjoins⟩ := TraceLayout.exists_joins_of_mem_connectors hc
  exact ⟨parent, hparent, child, hchild, hjoins, Connector.leadsBetween hjoins.route⟩

/-- The connector to a call that starts just right of its parent. -/
def detour : Connector where
  parentId := "a"
  childId := "b"
  route := (Connector.between {} ⟨100, 36⟩ ⟨105, 72⟩).1
  segments := (Connector.between {} ⟨100, 36⟩ ⟨105, 72⟩).2

theorem detour_traced :
    detour.points.length = 4 ∧ detour.Traces {} ⟨100, 36⟩ ⟨105, 72⟩ ∧
      ∃ c ∈ (TraceLayout.computeOrError nestedCalls .classic {} 800).connectors, c.ends = ("b", "a") ∧
        ∃ parent child : Row, c.Joins {} parent child ∧ c.LeadsBetween {} parent.anchor child.anchor := by
  have hvalid : validate nestedCalls .disconnected = .ok () := rfl
  have hforest := validate_eq_ok_iff_isForest.mp hvalid
  have hends : (TraceLayout.computeOrError nestedCalls .classic {} 800).connectors.map Connector.ends =
      [("b", "a"), ("c", "b")] := by
    rw [TraceLayout.computeOrError_of_ok hvalid, TraceLayout.connectors_eq_filterMap rfl hforest,
      TraceLayout.map_ends_filterMap_connectorTo? _ (TraceLayout.linked_rows rfl hforest),
      TraceLayout.filterMap_ends_rows rfl]
    rfl
  obtain ⟨c, hc, hca⟩ := List.mem_map.mp (hends ▸ List.mem_cons_self)
  have hroute := connectors_lead_between_bars {}
  obtain ⟨parent, -, child, -, hjoins, hleads⟩ := hroute.2 nestedCalls .classic 800 _ rfl c hc
  have hdetour := hroute.1 detour ⟨100, 36⟩ ⟨105, 72⟩ rfl
  exact ⟨rfl, hdetour.traces (by decide), c, hc, hca, parent, child, hjoins, hleads⟩

end Waterfall
