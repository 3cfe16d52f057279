import Mathlib.Data.List.Forall2
import Waterfall.Layout.Dump
import Waterfall.Proofs.Trace.Forest

/-!
# Rows and connectors of an accepted trace

A connector is made from two look-ups by id, of the parent's row and of the child's, and is dropped
where one of them fails. For an accepted trace none fails and none finds another row: ids are distinct
and every parent has a row. So rows mirror spans one to one, and connectors mirror the spans that have a
parent (`Mirrors`), with nothing lost, doubled or drawn between other rows.
-/

namespace Waterfall

/-! ## Looking up the row of an id -/

theorem find?_eq_some_of_nodup {α : Type} (key : α → String) {xs : List α}
    (hnodup : (xs.map key).Nodup) {x : α} (hx : x ∈ xs) :
    xs.find? (key · == key x) = some x := by
  rw [List.find?_eq_some_iff_append]
  obtain ⟨before, after, rfl⟩ := List.append_of_mem hx
  refine ⟨by simp, before, after, rfl, ?_⟩
  intro y hy
  have hne : key y ≠ key x := by
    intro heq
    rw [List.map_append, List.nodup_append] at hnodup
    exact hnodup.2.2 (key y) (List.mem_map_of_mem hy) (key x) (by simp) heq
  simpa using hne

namespace Row

/-- With distinct ids the anchor found for a row's id is its own. -/
theorem anchorOf?_of_mem {rows : List Row} (hnodup : (rows.map (·.node.id)).Nodup) {r : Row}
    (hr : r ∈ rows) : anchorOf? rows r.node.id = some r.anchor := by
  have hreverse : (rows.reverse.map (·.node.id)).Nodup := by
    rw [List.map_reverse]
    exact List.nodup_reverse.mpr hnodup
  rw [anchorOf?, find?_eq_some_of_nodup (·.node.id) hreverse (List.mem_reverse.mpr hr)]
  rfl

end Row

/-- The row shows the span that stands in the given place. -/
structure Row.Shows (r : Row) (row : Nat) (s : Span) : Prop where
  index : r.node.index = row
  id : r.node.id = s.id
  parentId : r.node.parentId = s.parentId
  label : r.node.label = s.label
  actor : r.node.actor = s.actor
  isError : r.node.isError = s.isError
  startTime : r.node.startTime = s.startTime
  endTime : r.node.endTime = s.endTime

/-- Rows whose ids are distinct and whose parents have rows among them. -/
structure Row.Linked (rows : List Row) : Prop where
  distinct : (rows.map (·.node.id)).Nodup
  parent_mem : ∀ child ∈ rows, ∀ p, child.node.parentId = some p →
    ∃ parent ∈ rows, parent.node.id = p

/-- The connector leads from the row of the parent that the child's row names to the child's row. -/
structure Connector.Joins (c : Connector) (config : LayoutConfig) (parent child : Row) : Prop where
  named : child.node.parentId = some parent.node.id
  parentId : c.parentId = parent.node.id
  childId : c.childId = child.node.id
  route : (c.route, c.segments) =
    between config ⟨parent.barX, parent.rowY⟩ ⟨child.barX, child.rowY⟩

/-- The ids that the connector leads to and from. -/
def Connector.ends (c : Connector) : String × String := (c.childId, c.parentId)

/-- The row is the child of some row. -/
def Row.hasParent (r : Row) : Bool := r.node.parentId.isSome

namespace TraceLayout

/-! ## Connectors of linked rows -/

section Connectors

variable (config : LayoutConfig) {rows : List Row}

theorem connectorTo?_eq_none (rows : List Row) {node : Node} (h : node.parentId = none) :
    connectorTo? config rows node = none := by
  simp [connectorTo?, h]

theorem connectorTo?_eq_some (h : Row.Linked rows) {parent child : Row} (hp : parent ∈ rows)
    (hc : child ∈ rows) (hnamed : child.node.parentId = some parent.node.id) :
    ∃ c, connectorTo? config rows child.node = some c ∧ c.Joins config parent child := by
  have hparent := Row.anchorOf?_of_mem h.distinct hp
  have hchild := Row.anchorOf?_of_mem h.distinct hc
  refine ⟨{ parentId := parent.node.id, childId := child.node.id,
            route := (Connector.between config parent.anchor child.anchor).1,
            segments := (Connector.between config parent.anchor child.anchor).2 }, ?_, ?_⟩
  · simp [connectorTo?, hnamed, hparent, hchild]
  · exact ⟨hnamed, rfl, rfl, rfl⟩

/-- One connector for each row that has a parent, in the order of the rows. -/
theorem forall₂_filterMap_connectorTo? (h : Row.Linked rows) {part : List Row}
    (hpart : ∀ r ∈ part, r ∈ rows) :
    List.Forall₂ (fun child c => ∃ parent ∈ rows, Connector.Joins c config parent child)
      (part.filter Row.hasParent) (part.filterMap fun r => connectorTo? config rows r.node) := by
  induction part with
  | nil => exact .nil
  | cons r rest ih =>
    have htail := ih fun r' hr' => hpart r' (List.mem_cons_of_mem r hr')
    have hr : r ∈ rows := hpart r List.mem_cons_self
    cases hnamed : r.node.parentId with
    | none =>
      have hnone : connectorTo? config rows r.node = none :=
        connectorTo?_eq_none config rows hnamed
      have hskip : (r :: rest).filter Row.hasParent = rest.filter Row.hasParent :=
        List.filter_cons_of_neg (by simp [Row.hasParent, hnamed])
      rw [hskip]
      simpa only [List.filterMap_cons, hnone] using htail
    | some p =>
      obtain ⟨parent, hp, rfl⟩ := h.parent_mem r hr p hnamed
      obtain ⟨c, hsome, hjoins⟩ := connectorTo?_eq_some config h hp hr hnamed
      have hkeep : (r :: rest).filter Row.hasParent = r :: rest.filter Row.hasParent :=
        List.filter_cons_of_pos (by simp [Row.hasParent, hnamed])
      rw [hkeep]
      simpa only [List.filterMap_cons, hsome] using List.Forall₂.cons ⟨parent, hp, hjoins⟩ htail

/-- The connectors lead to the rows with a parent and to no others. -/
theorem map_childId_of_forall₂ {part : List Row} {connectors : List Connector}
    (h : List.Forall₂ (fun child c => ∃ parent ∈ rows, Connector.Joins c config parent child)
      part connectors) :
    connectors.map (·.childId) = part.map (·.node.id) := by
  rw [← List.forall₂_eq_eq_eq, List.forall₂_map_left_iff, List.forall₂_map_right_iff]
  refine (h.imp ?_).flip
  rintro child c ⟨parent, -, hjoins⟩
  exact hjoins.childId

/-- The first node is skipped, and it has no connector anyway. -/
theorem connectorsOf_eq_filterMap {nodes : List Node}
    (hroot : ∀ n, nodes[0]? = some n → n.parentId = none) :
    connectorsOf config rows nodes = nodes.filterMap (connectorTo? config rows) := by
  cases nodes with
  | nil => rfl
  | cons first rest =>
    have hnone := connectorTo?_eq_none config rows (hroot first rfl)
    simp only [connectorsOf, List.drop_succ_cons, List.drop_zero, List.filterMap_cons, hnone]

/-- With a row for every parent, the ends of the connectors are read off the nodes. -/
theorem map_ends_filterMap_connectorTo? (h : Row.Linked rows) :
    (rows.filterMap fun r => connectorTo? config rows r.node).map Connector.ends =
      rows.filterMap fun r => r.node.parentId.map (r.node.id, ·) := by
  rw [List.map_filterMap]
  refine List.filterMap_congr ?_
  intro r hr
  cases hnamed : r.node.parentId with
  | none => rw [connectorTo?_eq_none config rows hnamed]; rfl
  | some p =>
    obtain ⟨parent, hp, rfl⟩ := h.parent_mem r hr p hnamed
    obtain ⟨c, hsome, hjoins⟩ := connectorTo?_eq_some config h hp hr hnamed
    simp [hsome, Connector.ends, hjoins.childId, hjoins.parentId]

end Connectors

/-! ## Rows of an accepted trace -/

section Rows

variable {spans : List Span} {theme : Theme} {config : LayoutConfig} {containerWidth : Float32}
  {layout : TraceLayout}

theorem exists_rows_eq (hl : ofValid spans theme config containerWidth = layout) :
    ∃ axis, layout.rows = Row.ofNodes (Node.ofSpans spans theme.palette).1 axis theme config := by
  rw [← hl]
  exact ⟨_, rfl⟩

theorem map_node_rows (hl : ofValid spans theme config containerWidth = layout) :
    layout.rows.map (·.node) = (Node.ofSpans spans theme.palette).1 := by
  obtain ⟨axis, hrows⟩ := exists_rows_eq hl
  rw [hrows, Row.map_node_ofNodes]

/-- What rows take over from the spans reads the same from both. -/
theorem map_rows (hl : ofValid spans theme config containerWidth = layout) {β : Type} {f : Node → β}
    {g : Span → β} (h : ∀ origin index color s, f (Node.ofSpan origin index color s) = g s) :
    (layout.rows.map fun r => f r.node) = spans.map g :=
  calc (layout.rows.map fun r => f r.node)
      = (layout.rows.map (·.node)).map f := by rw [List.map_map]; rfl
    _ = spans.map g := by rw [map_node_rows hl, Node.map_ofSpans h]

theorem map_id_rows (hl : ofValid spans theme config containerWidth = layout) :
    layout.rows.map (·.node.id) = spans.map (·.id) :=
  map_rows hl fun _ _ _ _ => rfl

theorem map_parentId_rows (hl : ofValid spans theme config containerWidth = layout) :
    layout.rows.map (·.node.parentId) = spans.map (·.parentId) :=
  map_rows hl fun _ _ _ _ => rfl

theorem filterMap_ends_rows (hl : ofValid spans theme config containerWidth = layout) :
    (layout.rows.filterMap fun r => r.node.parentId.map (r.node.id, ·)) =
      spans.filterMap fun s => s.parentId.map (s.id, ·) := by
  have hpairs := map_rows hl (f := fun n => n.parentId.map (n.id, ·))
    (g := fun s => s.parentId.map (s.id, ·)) fun _ _ _ _ => rfl
  simpa [List.filterMap_map, Function.comp_def] using congrArg (List.filterMap id) hpairs

theorem shows_of_getElem? (hl : ofValid spans theme config containerWidth = layout) {row : Nat}
    {s : Span} {r : Row} (hs : spans[row]? = some s) (hr : layout.rows[row]? = some r) :
    r.Shows row s := by
  obtain ⟨color, hn⟩ := Node.getElem?_ofSpans theme.palette hs
  obtain ⟨axis, hrows⟩ := exists_rows_eq hl
  rw [hrows, Row.getElem?_ofNodes, hn] at hr
  obtain rfl := Option.some.inj hr
  exact ⟨rfl, rfl, rfl, rfl, rfl, rfl, rfl, rfl⟩

/-- The rows of a forest are linked as its spans are. -/
theorem linked_rows (hl : ofValid spans theme config containerWidth = layout)
    {policy : RootPolicy} (h : IsForest spans policy) : Row.Linked layout.rows := by
  refine ⟨by rw [map_id_rows hl]; exact h.distinct, ?_⟩
  intro child hchild p hnamed
  have hparent : some p ∈ spans.map (·.parentId) := by
    rw [← map_parentId_rows hl, ← hnamed]
    exact List.mem_map_of_mem hchild
  obtain ⟨s, hs, hp⟩ := List.mem_map.mp hparent
  obtain ⟨t, ht, rfl⟩ := h.exists_parent hs hp
  have hid : t.id ∈ spans.map (·.id) := List.mem_map_of_mem ht
  rw [← map_id_rows hl] at hid
  exact List.mem_map.mp hid

/-- In a forest the connectors are those of all rows, the first one included. -/
theorem connectors_eq_filterMap (hl : ofValid spans theme config containerWidth = layout)
    {policy : RootPolicy} (h : IsForest spans policy) :
    layout.connectors = layout.rows.filterMap fun r => connectorTo? config layout.rows r.node := by
  obtain ⟨first, hfirst, hnone⟩ := h.root_first
  obtain ⟨color, hn⟩ := Node.getElem?_ofSpans theme.palette hfirst
  have hroot : ∀ n, (Node.ofSpans spans theme.palette).1[0]? = some n → n.parentId = none := by
    intro n hn'
    obtain rfl : n = Node.ofSpan _ 0 color first := by simpa [hn] using hn'.symm
    exact hnone
  calc layout.connectors
      = connectorsOf config layout.rows (Node.ofSpans spans theme.palette).1 := by rw [← hl]; rfl
    _ = (layout.rows.map (·.node)).filterMap (connectorTo? config layout.rows) := by
        rw [connectorsOf_eq_filterMap config hroot, map_node_rows hl]
    _ = _ := List.filterMap_map

/-- Every row has a parent or shows a root. -/
theorem countP_hasParent_add_rootCount (hl : ofValid spans theme config containerWidth = layout) :
    layout.rows.countP Row.hasParent + rootCount spans = layout.rows.length := by
  have hroots : rootCount spans = layout.rows.countP fun r => ¬ r.hasParent := by
    calc rootCount spans
        = (spans.map (·.parentId)).countP Option.isNone := List.countP_map.symm
      _ = (layout.rows.map (·.node.parentId)).countP Option.isNone := by rw [map_parentId_rows hl]
      _ = layout.rows.countP fun r => ¬ r.hasParent := by
          rw [List.countP_map]
          exact List.countP_congr fun r _ => by simp [Row.hasParent]
  rw [hroots]
  exact (List.length_eq_countP_add_countP Row.hasParent).symm

/-- No connector leads to the first row. -/
theorem childId_ne_of_root (hl : ofValid spans theme config containerWidth = layout)
    {policy : RootPolicy} (h : IsForest spans policy)
    (hchildren : layout.connectors.map (·.childId) =
      (layout.rows.filter Row.hasParent).map (·.node.id)) :
    ∀ c ∈ layout.connectors, ∀ s, spans[0]? = some s → c.childId ≠ s.id := by
  intro c hc s hs hid
  obtain ⟨first, hfirst, hnone⟩ := h.root_first
  obtain rfl : s = first := by simpa [hs] using hfirst
  have hmem : c.childId ∈ (layout.rows.filter Row.hasParent).map (·.node.id) := by
    rw [← hchildren]
    exact List.mem_map_of_mem hc
  obtain ⟨child, hchild, hchildId⟩ := List.mem_map.mp hmem
  obtain ⟨hrow, hparent⟩ := List.mem_filter.mp hchild
  have hspan : (child.node.id, child.node.parentId) ∈ spans.map fun s => (s.id, s.parentId) := by
    rw [← map_rows hl (f := fun n => (n.id, n.parentId)) fun _ _ _ _ => rfl]
    exact List.mem_map_of_mem hrow
  obtain ⟨t, ht, heq⟩ := List.mem_map.mp hspan
  obtain ⟨htid, htparent⟩ := Prod.mk.inj heq
  -- The child's span has the id of the first one, so it is the first one, which has no parent.
  have hsame : t = s := List.inj_on_of_nodup_map h.distinct ht (List.mem_of_getElem? hs)
    (by rw [htid, hchildId, hid])
  simp [Row.hasParent, ← htparent, hsame, hnone] at hparent

end Rows

end TraceLayout

/-! ## The dump -/

/-- The JSON object has a member of that name with that value. -/
def Json.Holds (v : Json) (key : String) (value : Json) : Prop :=
  ∃ members, v = .object members ∧ Json.member? key members = some value

/-- The JSON value tells all that a row has to tell. -/
structure Row.DumpedAs (r : Row) (v : Json) : Prop where
  id : v.Holds "id" (.text r.node.id)
  parentId : v.Holds "parent_id" (r.node.parentId.elim .null .text)
  index : v.Holds "index" (.number (.whole r.node.index))
  startOffset : v.Holds "start_offset" (.number (.whole r.node.startOffset))
  duration : v.Holds "duration" (.number (.whole r.node.duration))
  actor : v.Holds "actor" (.text r.node.actor)
  color : v.Holds "color" (.text r.color)
  isError : v.Holds "is_error" (.flag r.node.isError)
  bar : v.Holds "x" (.number (.single r.barX)) ∧ v.Holds "y" (.number (.single r.rowY)) ∧
    v.Holds "width" (.number (.single r.barWidth)) ∧ v.Holds "height" (.number (.single r.barHeight))
  label : v.Holds "label" (.text r.label.text)

/-- The JSON value tells the ends, the route and the points of a connector, a point as the list of its
coordinates. -/
structure Connector.DumpedAs (c : Connector) (v : Json) : Prop where
  parentId : v.Holds "parent" (.text c.parentId)
  childId : v.Holds "child" (.text c.childId)
  direct : c.route = .direct → v.Holds "route" (.text "direct")
  leftOffset : c.route = .leftOffset → v.Holds "route" (.text "left-offset")
  points : v.Holds "points" (.list (c.points.map fun p => .list [.number (.single p.x), .number (.single p.y)]))

theorem Json.optional_eq_elim {α : Type} (write : α → Json) (value : Option α) :
    Json.optional write value = value.elim .null write := by
  cases value <;> rfl

theorem Row.dumpedAs_toJson (r : Row) : r.DumpedAs r.toJson where
  id := ⟨_, rfl, rfl⟩
  parentId := by
    rw [← Json.optional_eq_elim]
    exact ⟨_, rfl, rfl⟩
  index := ⟨_, rfl, rfl⟩
  startOffset := ⟨_, rfl, rfl⟩
  duration := ⟨_, rfl, rfl⟩
  actor := ⟨_, rfl, rfl⟩
  color := ⟨_, rfl, rfl⟩
  isError := ⟨_, rfl, rfl⟩
  bar := ⟨⟨_, rfl, rfl⟩, ⟨_, rfl, rfl⟩, ⟨_, rfl, rfl⟩, ⟨_, rfl, rfl⟩⟩
  label := ⟨_, rfl, rfl⟩

theorem Connector.dumpedAs_toJson (c : Connector) : c.DumpedAs c.toJson where
  parentId := ⟨_, rfl, rfl⟩
  childId := ⟨_, rfl, rfl⟩
  direct hroute := ⟨_, rfl, by rw [hroute]; rfl⟩
  leftOffset hroute := ⟨_, rfl, by rw [hroute]; rfl⟩
  points := ⟨_, rfl, rfl⟩

/-! ## Main statement -/

/-- What a layout of spans shows of them, and its dump repeats. -/
structure Mirrors (spans : List Span) (config : LayoutConfig) (layout : TraceLayout) : Prop where
  length_rows : layout.rows.length = spans.length
  shows : ∀ (row : Nat) s r, spans[row]? = some s → layout.rows[row]? = some r → r.Shows row s
  linked : Row.Linked layout.rows
  /-- One connector for each row with a parent, in the order of the rows. -/
  joins : List.Forall₂ (fun child c => ∃ parent ∈ layout.rows, Connector.Joins c config parent child)
    (layout.rows.filter Row.hasParent) layout.connectors
  ends : layout.connectors.map Connector.ends =
    spans.filterMap fun s => s.parentId.map (s.id, ·)
  length_connectors : layout.connectors.length + rootCount spans = layout.rows.length
  distinct_children : (layout.connectors.map (·.childId)).Nodup
  childId_ne_first : ∀ c ∈ layout.connectors, ∀ s, spans[0]? = some s → c.childId ≠ s.id
  dumped_rows : ∃ dumped, layout.toJson.Holds "rows" (.list dumped) ∧
    List.Forall₂ Row.DumpedAs layout.rows dumped
  dumped_connectors : ∃ dumped, layout.toJson.Holds "connectors" (.list dumped) ∧
    List.Forall₂ Connector.DumpedAs layout.connectors dumped

/-- **The layout of an accepted trace mirrors it.** Rows stand one to one and in order for the spans,
connectors one to one and in order for the spans with a parent, each drawn between the rows of its two
ends; the dump repeats both lists. -/
theorem mirrors_of_compute_eq_ok {spans : List Span} {theme : Theme} {config : LayoutConfig}
    {containerWidth : Float32} {layout : TraceLayout}
    (hok : TraceLayout.compute spans theme config containerWidth = .ok layout) :
    Mirrors spans config layout := by
  obtain ⟨hvalid, hl⟩ := TraceLayout.compute_eq_ok_iff.mp hok
  have h := validate_eq_ok_iff_isForest.mp hvalid
  have hlinked := TraceLayout.linked_rows hl h
  have hconnectors := TraceLayout.connectors_eq_filterMap hl h
  have hjoins := TraceLayout.forall₂_filterMap_connectorTo? config hlinked fun _ hr => hr
  rw [← hconnectors] at hjoins
  have hchildren := TraceLayout.map_childId_of_forall₂ config hjoins
  refine ⟨?_, fun _ _ _ => TraceLayout.shows_of_getElem? hl, hlinked, hjoins, ?_, ?_, ?_, ?_,
    ⟨_, ⟨_, rfl, rfl⟩, ?_⟩, ⟨_, ⟨_, rfl, rfl⟩, ?_⟩⟩
  · simpa using congrArg List.length (TraceLayout.map_id_rows hl)
  · rw [hconnectors, TraceLayout.map_ends_filterMap_connectorTo? config hlinked]
    exact TraceLayout.filterMap_ends_rows hl
  · rw [← hjoins.length_eq, ← List.countP_eq_length_filter]
    exact TraceLayout.countP_hasParent_add_rootCount hl
  · rw [hchildren]
    exact hlinked.distinct.sublist (List.filter_sublist.map _)
  · exact TraceLayout.childId_ne_of_root hl h hchildren
  · exact List.forall₂_map_right_iff.mpr (List.forall₂_same.mpr fun r _ => r.dumpedAs_toJson)
  · exact List.forall₂_map_right_iff.mpr (List.forall₂_same.mpr fun c _ => c.dumpedAs_toJson)

/-- The first connector goes straight down, the second one starts too near its parent for that. -/
theorem nestedCalls_mirrored :
    ∃ layout, TraceLayout.compute nestedCalls .classic { rootPolicy := .reject } 92 = .ok layout ∧
      Mirrors nestedCalls { rootPolicy := .reject } layout ∧
      layout.connectors.map (fun c => (c.route, c.points.map fun p => (p.x, p.y))) =
        [(.direct, [(0, 26), (0, 49), (12, 49)]),
          (.leftOffset, [(12, 56), (-3, 56), (-3, 85), (21, 85)])] := by
  have hok : TraceLayout.compute nestedCalls .classic { rootPolicy := .reject } 92 =
      .ok (TraceLayout.ofValid nestedCalls .classic { rootPolicy := .reject } 92) :=
    TraceLayout.compute_eq_ok_iff.mpr ⟨validate_nestedCalls, rfl⟩
  exact ⟨_, hok, mirrors_of_compute_eq_ok hok, by decide +kernel⟩

end Waterfall
