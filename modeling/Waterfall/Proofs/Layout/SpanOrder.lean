import Mathlib.Data.List.Find
import Waterfall.Proofs.Layout.Connection
import Waterfall.Proofs.Layout.ExactTimes

/-!
# Traces in another order

A trace can list its spans in many orders that put parents first. The order decides where rows stand, how
they are coloured and how connectors bend vertically. It decides nothing along the time axis: what a row
has there (`Row.timeGeometry`) is made from its span and the axis, and the axis from the earliest start
and the latest end.

A connector looks up its two rows by id. With distinct ids it finds the same two in either order, and its
route depends on where their bars start, so that parent, child and route (`Connector.link`) stay as they
are. The segments are left out: their heights are those of the rows.
-/

namespace Waterfall

/-! ## Rows along the time axis -/

/-- What a row has along the time axis, and nothing of its place among the rows. -/
structure TimeGeometry where
  id : String
  startOffset : Int
  duration : Int
  barX : Float32
  barWidth : Float32
  labelText : String
  labelX : Float32
  clipped : Bool

def Row.timeGeometry (r : Row) : TimeGeometry where
  id := r.node.id
  startOffset := r.node.startOffset
  duration := r.node.duration
  barX := r.barX
  barWidth := r.barWidth
  labelText := r.label.text
  labelX := r.label.x
  clipped := r.label.clipped

/-- The place of a span along the axis of a trace that starts at `origin`. -/
def Span.timeGeometry (axis : Axis) (theme : Theme) (config : LayoutConfig) (origin : Int) (s : Span) :
    TimeGeometry :=
  (Row.ofNode axis theme config 0 (Node.ofSpan origin 0 "" s)).timeGeometry

/-- Neither row nor colour has a part in it. -/
theorem timeGeometry_ofNode (axis : Axis) (theme : Theme) (config : LayoutConfig) (origin : Int)
    (row index : Nat) (color : String) (s : Span) :
    (Row.ofNode axis theme config row (Node.ofSpan origin index color s)).timeGeometry =
      s.timeGeometry axis theme config origin := by
  simp only [Span.timeGeometry, Row.timeGeometry, Row.ofNode, Row.labelOf, Node.ofSpan, Node.endOffset]

theorem map_timeGeometry_ofNodes (axis : Axis) (theme : Theme) (config : LayoutConfig) (spans : List Span)
    (palette : List String) :
    (Row.ofNodes (Node.ofSpans spans palette).1 axis theme config).map Row.timeGeometry =
      spans.map (Span.timeGeometry axis theme config (earliest spans)) := by
  apply map_eq_map_of_getElem?
  · rw [Row.length_ofNodes, Node.length_ofSpans]
  · intro row s hs
    obtain ⟨color, hn⟩ := Node.getElem?_ofSpans palette hs
    rw [Row.getElem?_ofNodes, hn]
    exact ⟨_, rfl, timeGeometry_ofNode ..⟩

/-! ## Looking up an id -/

/-- Where the bar of an id starts; of rows with one id the last counts. -/
def Row.barXOf? (rows : List Row) (id : String) : Option Float32 := (Row.anchorOf? rows id).map (·.x)

/-- With distinct ids a look-up does not depend on the order. -/
theorem find?_id_of_perm {gs gs' : List TimeGeometry} (hperm : gs.Perm gs')
    (hdistinct : (gs.map (·.id)).Nodup) (id : String) :
    gs.find? (·.id == id) = gs'.find? (·.id == id) := by
  apply List.find?_eq_find?_of_perm hperm
  rintro g ⟨hg, hid⟩ g' ⟨hg', hid'⟩
  refine List.inj_on_of_nodup_map hdistinct hg hg' ?_
  rw [eq_of_beq hid, eq_of_beq hid']

theorem map_id_timeGeometry (rows : List Row) :
    (rows.map Row.timeGeometry).map (·.id) = rows.map (·.node.id) := by
  rw [List.map_map]
  rfl

theorem barXOf?_eq_find? {rows : List Row} (hdistinct : (rows.map (·.node.id)).Nodup) (id : String) :
    Row.barXOf? rows id = ((rows.map Row.timeGeometry).find? (·.id == id)).map (·.barX) := by
  have hreversed : (rows.map Row.timeGeometry).find? (·.id == id) =
      (rows.map Row.timeGeometry).reverse.find? (·.id == id) :=
    find?_id_of_perm (List.reverse_perm _).symm (by rwa [map_id_timeGeometry]) id
  rw [hreversed, ← List.map_reverse, List.find?_map, Option.map_map, Row.barXOf?, Row.anchorOf?,
    Option.map_map]
  rfl

theorem map_timeGeometry_rowFor? (l : TraceLayout) (id : String) :
    (l.rowFor? id).map Row.timeGeometry = (l.rows.map Row.timeGeometry).find? (·.id == id) := by
  rw [List.find?_map]
  rfl

/-! ## Routes -/

/-- What a connector joins and how it runs, without its segments. -/
def Connector.link (c : Connector) : String × String × Route := (c.parentId, c.childId, c.route)

/-- The route from a bar to another, by where they start. -/
def routeBetween (config : LayoutConfig) (parentX childX : Float32) : Route :=
  if childX - parentX < config.connectorThreshold then .leftOffset else .direct

theorem fst_between (config : LayoutConfig) (parent child : Point) :
    (Connector.between config parent child).1 = routeBetween config parent.x child.x := by
  by_cases hnear : child.x - parent.x < config.connectorThreshold <;>
    simp [Connector.between, Connector.exitPoint, Connector.entryPoint, routeBetween, hnear]

/-- The link of an id to its parent, given where bars start. -/
def linkTo? (config : LayoutConfig) (barX : String → Option Float32) (id : String)
    (parent : Option String) : Option (String × String × Route) := do
  let p ← parent
  let parentX ← barX p
  let childX ← barX id
  return (p, id, routeBetween config parentX childX)

/-- Of the rows a link needs no more than where their bars start. -/
theorem map_link_connectorTo? (config : LayoutConfig) (rows : List Row) (n : Node) :
    (TraceLayout.connectorTo? config rows n).map Connector.link =
      linkTo? config (Row.barXOf? rows) n.id n.parentId := by
  unfold TraceLayout.connectorTo? linkTo? Row.barXOf?
  cases n.parentId with
  | none => rfl
  | some p =>
    simp only [Option.bind_eq_bind, Option.bind_some]
    cases Row.anchorOf? rows p with
    | none => rfl
    | some parent =>
      cases Row.anchorOf? rows n.id with
      | none => rfl
      | some child => simp [Connector.link, fst_between]

namespace TraceLayout

variable {spans : List Span} {theme : Theme} {config : LayoutConfig} {containerWidth : Float32}
  {layout : TraceLayout}

/-- The links of a trace, span by span. -/
theorem map_link_connectors (hl : ofValid spans theme config containerWidth = layout)
    {policy : RootPolicy} (h : IsForest spans policy) :
    layout.connectors.map Connector.link =
      spans.filterMap fun s => linkTo? config (Row.barXOf? layout.rows) s.id s.parentId := by
  have hpairs := map_rows hl (f := fun n => linkTo? config (Row.barXOf? layout.rows) n.id n.parentId)
    (g := fun s => linkTo? config (Row.barXOf? layout.rows) s.id s.parentId) fun _ _ _ _ => rfl
  calc layout.connectors.map Connector.link
      = layout.rows.filterMap fun r => (connectorTo? config layout.rows r.node).map Connector.link := by
        rw [connectors_eq_filterMap hl h, List.map_filterMap]
    _ = (layout.rows.map fun r =>
          linkTo? config (Row.barXOf? layout.rows) r.node.id r.node.parentId).filterMap id := by
        rw [List.filterMap_map]
        exact List.filterMap_congr fun r _ => map_link_connectorTo? config layout.rows r.node
    _ = spans.filterMap fun s => linkTo? config (Row.barXOf? layout.rows) s.id s.parentId := by
        rw [hpairs, List.filterMap_map]
        rfl

end TraceLayout

/-! ## Main statement -/

/-- The layouts agree in all that lies along the time axis: the axis itself, what each id has along it,
and which rows are linked by which routes. -/
structure TraceLayout.SameAlongTime (layout layout' : TraceLayout) : Prop where
  axis : layout.axis = layout'.axis
  ticks : layout.ticks = layout'.ticks
  rows : (layout.rows.map Row.timeGeometry).Perm (layout'.rows.map Row.timeGeometry)
  rowFor : ∀ id, (layout.rowFor? id).map Row.timeGeometry = (layout'.rowFor? id).map Row.timeGeometry
  links : (layout.connectors.map Connector.link).Perm (layout'.connectors.map Connector.link)

section Reordered

variable {spans spans' : List Span}

theorem startTimes_of_perm (hperm : spans.Perm spans') : startTimes spans = startTimes spans' := by
  ext t
  simp only [startTimes, Set.mem_ofPred_eq, hperm.mem_iff]

theorem endTimes_of_perm (hperm : spans.Perm spans') : endTimes spans = endTimes spans' := by
  ext t
  simp only [endTimes, Set.mem_ofPred_eq, hperm.mem_iff]

theorem earliest_of_perm (hperm : spans.Perm spans') (hne : spans ≠ []) (hne' : spans' ≠ []) :
    earliest spans = earliest spans' := by
  have hleast := isLeast_earliest hne
  rw [startTimes_of_perm hperm] at hleast
  exact hleast.unique (isLeast_earliest hne')

end Reordered

theorem TraceLayout.sameAlongTime_of_perm {spans spans' : List Span} {policy : RootPolicy}
    (hperm : spans.Perm spans') (h : IsForest spans policy) (h' : IsForest spans' policy) (theme : Theme)
    (config : LayoutConfig) (containerWidth : Float32) :
    (ofValid spans theme config containerWidth).SameAlongTime
      (ofValid spans' theme config containerWidth) := by
  have hl : ofValid spans theme config containerWidth = _ := rfl
  have hl' : ofValid spans' theme config containerWidth = _ := rfl
  obtain ⟨last, hlast⟩ := exists_isGreatest_endTimes h.nonempty
  have hstart := earliest_of_perm hperm h.nonempty h'.nonempty
  have haxis := axis_eq_of_same_times h h' hstart hlast (endTimes_of_perm hperm ▸ hlast) theme.palette
    (larger (config.chartWidth containerWidth) 0)
  have hrows : ((ofValid spans theme config containerWidth).rows.map Row.timeGeometry).Perm
      ((ofValid spans' theme config containerWidth).rows.map Row.timeGeometry) := by
    simp only [ofValid, map_timeGeometry_ofNodes, haxis, hstart]
    exact hperm.map _
  have hdistinct := (linked_rows hl h).distinct
  have hdistinct' := (linked_rows hl' h').distinct
  have hfind := find?_id_of_perm hrows (by rwa [map_id_timeGeometry])
  refine ⟨congrArg some haxis, congrArg (·.ticks config.axisTicks) haxis, hrows, ?_, ?_⟩
  · intro id
    rw [map_timeGeometry_rowFor?, map_timeGeometry_rowFor?, hfind]
  · have hbars : Row.barXOf? (ofValid spans theme config containerWidth).rows =
        Row.barXOf? (ofValid spans' theme config containerWidth).rows := by
      funext id
      rw [barXOf?_eq_find? hdistinct, barXOf?_eq_find? hdistinct', hfind]
    rw [map_link_connectors hl h, map_link_connectors hl' h', hbars]
    exact hperm.filterMap _

/-- **The order of spans decides nothing along the time axis.** Two accepted orders of one trace have
layouts with the same axis and ticks; each id has its bar and its label at the same place, and the
connectors join the same ids by the same routes. -/
theorem reordered_trace_same_along_time {spans spans' : List Span} (theme : Theme)
    (config : LayoutConfig) (containerWidth : Float32) (hperm : spans.Perm spans')
    (hok : validate spans config.rootPolicy = .ok ())
    (hok' : validate spans' config.rootPolicy = .ok ()) :
    ∃ layout layout', TraceLayout.compute spans theme config containerWidth = .ok layout ∧
      TraceLayout.compute spans' theme config containerWidth = .ok layout' ∧
      layout.SameAlongTime layout' ∧
      ∀ s ∈ spans, (layout.rowFor? s.id).isSome := by
  have h := validate_eq_ok_iff_isForest.mp hok
  have h' := validate_eq_ok_iff_isForest.mp hok'
  refine ⟨_, _, TraceLayout.compute_of_ok hok, TraceLayout.compute_of_ok hok',
    TraceLayout.sameAlongTime_of_perm hperm h h' theme config containerWidth, ?_⟩
  intro s hs
  have hid : s.id ∈ (TraceLayout.ofValid spans theme config containerWidth).rows.map (·.node.id) := by
    rw [TraceLayout.map_id_rows rfl]
    exact List.mem_map_of_mem hs
  obtain ⟨r, hr, hrid⟩ := List.mem_map.mp hid
  rw [TraceLayout.rowFor?, List.find?_isSome]
  exact ⟨r, hr, by simp [hrid]⟩

/-- Two trees, the later of which starts first. -/
def twoTrees : List Span := [
  { id := "a", parentId := none, startTime := 0, endTime := 9, label := "first", actor := "x" },
  { id := "b", parentId := some "a", startTime := 1, endTime := 2, label := "below", actor := "y" },
  { id := "c", parentId := none, startTime := -3, endTime := 4, label := "second", actor := "z" },
  { id := "d", parentId := some "c", startTime := 3, endTime := 4, label := "under", actor := "x" }]

/-- The same trees, the other one first and the children at the end. -/
def twoTreesReordered : List Span :=
  [twoTrees[2], twoTrees[0], twoTrees[3], twoTrees[1]]

theorem twoTrees_same_along_time :
    twoTrees.Perm twoTreesReordered ∧ validate twoTrees .disconnected = .ok () ∧
    validate twoTreesReordered .disconnected = .ok () ∧
    ∃ layout layout', TraceLayout.compute twoTrees .classic {} 800 = .ok layout ∧
      TraceLayout.compute twoTreesReordered .classic {} 800 = .ok layout' ∧
      layout.SameAlongTime layout' := by
  have hperm : twoTrees.Perm twoTreesReordered := by decide
  have hok : validate twoTrees .disconnected = .ok () := rfl
  have hok' : validate twoTreesReordered .disconnected = .ok () := rfl
  obtain ⟨layout, layout', hlayout, hlayout', hsame, -⟩ :=
    reordered_trace_same_along_time .classic {} 800 hperm hok hok'
  exact ⟨hperm, hok, hok', layout, layout', hlayout, hlayout', hsame⟩

end Waterfall
