import Waterfall.Proofs.Layout.Connection
import Waterfall.Proofs.Layout.ExactTimes

/-!
# Traces that grow

A trace may come in bit by bit. Its spans up to any row form a trace of their own, and what was laid out
of them stays as it is when later spans come in: rows, connectors and chips of the earlier spans are the
first ones of all (`TraceLayout.Begins`). Only the axis could move them, and it does not as long as the
later spans lie between the earliest start and the latest end of the earlier ones.

No pass over the spans looks ahead, which is what the lemmas on `++` say of each. A connector looks up rows
by id in the whole list; with distinct ids it finds those that were there before.
-/

namespace Waterfall

/-! ## The first spans of a trace -/

section Structure

variable {early late : List Span}

theorem rootRow_append_iff {row : Nat} (hrow : row < early.length) :
    RootRow (early ++ late) row ↔ RootRow early row := by
  simp only [RootRow, List.getElem?_append_left hrow]

theorem parentRow_append_iff {child parent : Nat} (hchild : child < early.length)
    (hparent : parent < early.length) :
    ParentRow (early ++ late) child parent ↔ ParentRow early child parent := by
  simp only [ParentRow, List.getElem?_append_left hchild, List.getElem?_append_left hparent]

theorem RootRow.lt_length {spans : List Span} {row : Nat} (h : RootRow spans row) :
    row < spans.length := by
  obtain ⟨s, hs, -⟩ := h
  exact (List.getElem?_eq_some_iff.mp hs).1

/-- The ends of the first spans lie no farther from their own earliest start than from that of all. -/
theorem IsForest.fits_of_append {policy : RootPolicy} (h : IsForest (early ++ late) policy) {origin : Int}
    (horigin : IsLeast (startTimes early) origin) {s : Span} (hs : s ∈ early) :
    Time.fits (s.endTime - origin) := by
  have hleast := isLeast_earliest h.nonempty
  have hmem : s ∈ early ++ late := List.mem_append_left late hs
  obtain ⟨first, hfirst, rfl⟩ := horigin.1
  have hstart : first.startTime ≤ s.startTime := horigin.2 ⟨s, hs, rfl⟩
  have hall : earliest (early ++ late) ≤ first.startTime :=
    hleast.2 ⟨first, List.mem_append_left late hfirst, rfl⟩
  have hordered := h.ordered s hmem
  have hfits := (h.measurable _ hleast s hmem).2
  have hzero : Time.least ≤ 0 := by decide
  rw [Time.fits_iff] at hfits ⊢
  omega

/-- The spans of a forest up to any row are a forest. -/
theorem IsForest.of_append {policy : RootPolicy} (h : IsForest (early ++ late) policy)
    (hne : early ≠ []) : IsForest early policy := by
  have hleast := isLeast_earliest h.nonempty
  have hpos : 0 < early.length := List.length_pos_iff.mpr hne
  have hroot : RootRow early 0 := (rootRow_append_iff hpos).mp h.root_first
  refine ⟨hne, ?_, ?_, ?_, hroot, ?_, ?_⟩
  · have hdistinct := h.distinct
    rw [List.map_append] at hdistinct
    exact hdistinct.of_append_left
  · intro s hs
    exact h.ordered s (List.mem_append_left late hs)
  · intro origin horigin s hs
    exact ⟨(h.measurable _ hleast s (List.mem_append_left late hs)).1, h.fits_of_append horigin hs⟩
  · intro row s hrow hs
    have hlt : row < early.length := (List.getElem?_eq_some_iff.mp hs).1
    have hs' : (early ++ late)[row]? = some s := by rwa [List.getElem?_append_left hlt]
    rcases h.parent_first row s hrow hs' with hnone | ⟨parent, hparent, hnamed⟩
    · exact .inl hnone
    · exact .inr ⟨parent, hparent, (parentRow_append_iff hlt (hparent.trans hlt)).mp hnamed⟩
  · intro hpolicy
    obtain ⟨only, -, honly⟩ := h.one_root hpolicy
    have hall : ∀ row, RootRow early row → row = only := fun row hrow =>
      honly row ((rootRow_append_iff hrow.lt_length).mpr hrow)
    refine ⟨0, hroot, ?_⟩
    intro row hrow
    rw [hall row hrow, hall 0 hroot]

/-- The later spans lie between the earliest start and the latest end of the earlier ones. -/
def LieWithin (late early : List Span) : Prop :=
  ∀ origin last, IsLeast (startTimes early) origin → IsGreatest (endTimes early) last →
    ∀ s ∈ late, origin ≤ s.startTime ∧ s.endTime ≤ last

theorem LieWithin.earliest_append (h : LieWithin late early) (hne : early ≠ []) :
    earliest early = earliest (early ++ late) := by
  have hleast := isLeast_earliest hne
  obtain ⟨last, hlast⟩ := exists_isGreatest_endTimes hne
  have hall : IsLeast (startTimes (early ++ late)) (earliest early) := by
    obtain ⟨first, hfirst, hstart⟩ := hleast.1
    refine ⟨⟨first, List.mem_append_left late hfirst, hstart⟩, ?_⟩
    rintro t ⟨s, hs, rfl⟩
    rcases List.mem_append.mp hs with hs | hs
    · exact hleast.2 ⟨s, hs, rfl⟩
    · exact (h _ last hleast hlast s hs).1
  exact hall.unique (isLeast_earliest (by simp [hne]))

theorem LieWithin.isGreatest_append (h : LieWithin late early) (hne : early ≠ []) {last : Int}
    (hlast : IsGreatest (endTimes early) last) : IsGreatest (endTimes (early ++ late)) last := by
  obtain ⟨final, hfinal, hstop⟩ := hlast.1
  refine ⟨⟨final, List.mem_append_left late hfinal, hstop⟩, ?_⟩
  rintro t ⟨s, hs, rfl⟩
  rcases List.mem_append.mp hs with hs | hs
  · exact hlast.2 ⟨s, hs, rfl⟩
  · exact (h _ last (isLeast_earliest hne) hlast s hs).2

end Structure

/-! ## No pass looks ahead -/

theorem ActorColors.entries_isPrefix_assignAll (palette : List String) (c : ActorColors)
    (actors : List String) : c.entries <+: (c.assignAll palette actors).entries := by
  induction actors generalizing c with
  | nil => exact List.prefix_rfl
  | cons actor rest ih =>
    have hassign : c.entries <+: (c.assign palette actor).entries := by
      cases hactor : c.slotOf? actor with
      | some _ => rw [assign_of_some palette hactor]
      | none =>
        rw [assign_of_none palette hactor]
        exact List.prefix_append c.entries _
    exact hassign.trans (ih (c.assign palette actor))

theorem Node.ofSpansFrom_append (palette : List String) (origin : Int) (index : Nat)
    (colors : ActorColors) (early late : List Span) :
    ∃ nodes, (ofSpansFrom palette origin index colors (early ++ late)).1 =
      (ofSpansFrom palette origin index colors early).1 ++ nodes := by
  induction early generalizing index colors with
  | nil => exact ⟨_, rfl⟩
  | cons s rest ih =>
    obtain ⟨nodes, hnodes⟩ := ih (index + 1) (colors.assign palette s.actor)
    refine ⟨nodes, ?_⟩
    simp only [List.cons_append, ofSpansFrom, hnodes]

theorem Node.isPrefix_ofSpans (palette : List String) {early late : List Span}
    (hstart : earliest early = earliest (early ++ late)) :
    (ofSpans early palette).1 <+: (ofSpans (early ++ late) palette).1 := by
  obtain ⟨nodes, hnodes⟩ :=
    ofSpansFrom_append palette (earliestStart (early ++ late)) 0 {} early late
  have horigin : earliestStart early = earliestStart (early ++ late) := hstart
  rw [ofSpans, ofSpans, horigin, hnodes]
  exact List.prefix_append _ nodes

theorem Node.entries_isPrefix_ofSpans (palette : List String) (early late : List Span) :
    (ofSpans early palette).2.entries <+: (ofSpans (early ++ late) palette).2.entries := by
  rw [ofSpans, ofSpans, ofSpansFrom_snd, ofSpansFrom_snd, List.map_append]
  unfold ActorColors.assignAll
  rw [List.foldl_append]
  exact ActorColors.entries_isPrefix_assignAll palette _ _

theorem Row.isPrefix_ofNodes {nodes nodes' : List Node} (h : nodes <+: nodes') (axis : Axis) (theme : Theme)
    (config : LayoutConfig) : ofNodes nodes axis theme config <+: ofNodes nodes' axis theme config := by
  obtain ⟨more, rfl⟩ := h
  rw [ofNodes, ofNodes, List.mapIdx_append]
  exact List.prefix_append _ _

theorem Legend.chipsFrom_append (m : Measures) (width : String → Float32) (x y : Float32)
    (entries more : List (String × String)) :
    ∃ chips, chipsFrom m width x y (entries ++ more) = chipsFrom m width x y entries ++ chips := by
  induction entries generalizing x y with
  | nil => exact ⟨_, rfl⟩
  | cons e rest ih =>
    obtain ⟨chips, hchips⟩ := ih ((place m x y (width e.1)).x + (width e.1 + m.gap)) (place m x y (width e.1)).y
    refine ⟨chips, ?_⟩
    simp only [List.cons_append, chipsFrom, hchips]

theorem Legend.isPrefix_chips {colors colors' : ActorColors} (h : colors.entries <+: colors'.entries)
    (containerWidth : Float32) (theme : Theme) (config : LayoutConfig) :
    chips colors containerWidth theme config <+: chips colors' containerWidth theme config := by
  obtain ⟨more, hmore⟩ := h
  obtain ⟨rest, hrest⟩ := chipsFrom_append (measures containerWidth theme config)
    (chipWidth theme config) (measures containerWidth theme config).startX 0 colors.entries more
  rw [chips, chips, ← hmore, hrest]
  exact List.prefix_append _ rest

/-! ## Connectors of the first rows -/

section Connectors

variable {rows rows' : List Row}

theorem anchorOf?_of_isPrefix (h : rows <+: rows') (hdistinct : (rows'.map (·.node.id)).Nodup) {r : Row}
    (hr : r ∈ rows) : Row.anchorOf? rows r.node.id = Row.anchorOf? rows' r.node.id := by
  have hfirst : (rows.map (·.node.id)).Nodup := hdistinct.sublist (h.sublist.map _)
  rw [Row.anchorOf?_of_mem hfirst hr, Row.anchorOf?_of_mem hdistinct (h.subset hr)]

/-- The rows that a connector needs are found among the first ones. -/
theorem connectorTo?_of_isPrefix (h : rows <+: rows') (hlinked : Row.Linked rows)
    (hdistinct : (rows'.map (·.node.id)).Nodup) (config : LayoutConfig) {r : Row} (hr : r ∈ rows) :
    TraceLayout.connectorTo? config rows r.node = TraceLayout.connectorTo? config rows' r.node := by
  cases hnamed : r.node.parentId with
  | none =>
    rw [TraceLayout.connectorTo?_eq_none config rows hnamed, TraceLayout.connectorTo?_eq_none config rows' hnamed]
  | some p =>
    obtain ⟨parent, hparent, rfl⟩ := hlinked.parent_mem r hr p hnamed
    simp only [TraceLayout.connectorTo?, hnamed, Option.bind_eq_bind, Option.bind_some,
      anchorOf?_of_isPrefix h hdistinct hparent, anchorOf?_of_isPrefix h hdistinct hr]

theorem isPrefix_filterMap_connectorTo? (h : rows <+: rows') (hlinked : Row.Linked rows)
    (hdistinct : (rows'.map (·.node.id)).Nodup) (config : LayoutConfig) :
    (rows.filterMap fun r => TraceLayout.connectorTo? config rows r.node) <+:
      rows'.filterMap fun r => TraceLayout.connectorTo? config rows' r.node := by
  have hsame : (rows.filterMap fun r => TraceLayout.connectorTo? config rows r.node) =
      rows.filterMap fun r => TraceLayout.connectorTo? config rows' r.node :=
    List.filterMap_congr fun r hr => connectorTo?_of_isPrefix h hlinked hdistinct config hr
  rw [hsame]
  exact h.filterMap _

end Connectors

/-! ## Main statement -/

/-- The layout is the beginning of another one, on the same axis. -/
structure TraceLayout.Begins (layout whole : TraceLayout) : Prop where
  axis : layout.axis = whole.axis
  ticks : layout.ticks = whole.ticks
  rows : layout.rows <+: whole.rows
  connectors : layout.connectors <+: whole.connectors
  legend : layout.legend <+: whole.legend

theorem TraceLayout.begins_append {early late : List Span} {policy : RootPolicy} (hne : early ≠ [])
    (h : IsForest (early ++ late) policy) (hwithin : LieWithin late early) (theme : Theme)
    (config : LayoutConfig) (containerWidth : Float32) :
    (ofValid early theme config containerWidth).Begins
      (ofValid (early ++ late) theme config containerWidth) := by
  have hearly := h.of_append hne
  have hl : ofValid early theme config containerWidth = _ := rfl
  have hl' : ofValid (early ++ late) theme config containerWidth = _ := rfl
  have hstart := hwithin.earliest_append hne
  obtain ⟨last, hlast⟩ := exists_isGreatest_endTimes hne
  have haxis := axis_eq_of_same_times hearly h hstart hlast (hwithin.isGreatest_append hne hlast)
    theme.palette (larger (config.chartWidth containerWidth) 0)
  have hrows : (ofValid early theme config containerWidth).rows <+:
      (ofValid (early ++ late) theme config containerWidth).rows := by
    simp only [ofValid, haxis]
    exact Row.isPrefix_ofNodes (Node.isPrefix_ofSpans theme.palette hstart) _ theme config
  refine ⟨congrArg some haxis, congrArg (·.ticks config.axisTicks) haxis, hrows, ?_, ?_⟩
  · rw [connectors_eq_filterMap hl hearly, connectors_eq_filterMap hl' h]
    exact isPrefix_filterMap_connectorTo? hrows (linked_rows hl hearly) (linked_rows hl' h).distinct config
  · exact Legend.isPrefix_chips (Node.entries_isPrefix_ofSpans theme.palette early late) containerWidth
      theme config

/-- **What is laid out of a trace stays when more of it comes in.** The spans up to any row are accepted
where the whole is, and if the later ones lie within the times of the earlier ones, the layout of the
earlier ones is the beginning of the layout of all: every row, connector and chip has its place, its
colour and its segments already. -/
theorem layout_begins_whole (early late : List Span) (hne : early ≠ []) :
    (∀ policy, validate (early ++ late) policy = .ok () → validate early policy = .ok ()) ∧
    ∀ (theme : Theme) (config : LayoutConfig) (containerWidth : Float32),
      validate (early ++ late) config.rootPolicy = .ok () → LieWithin late early →
      ∃ layout whole, TraceLayout.compute early theme config containerWidth = .ok layout ∧
        TraceLayout.compute (early ++ late) theme config containerWidth = .ok whole ∧
        layout.Begins whole := by
  have haccepted : ∀ policy, validate (early ++ late) policy = .ok () → validate early policy = .ok () := by
    intro policy hok
    exact validate_eq_ok_iff_isForest.mpr ((validate_eq_ok_iff_isForest.mp hok).of_append hne)
  refine ⟨haccepted, ?_⟩
  intro theme config containerWidth hok hwithin
  exact ⟨_, _, TraceLayout.compute_of_ok (haccepted _ hok), TraceLayout.compute_of_ok hok,
    TraceLayout.begins_append hne (validate_eq_ok_iff_isForest.mp hok) hwithin theme config containerWidth⟩

/-- The two inner calls come in after the outer one. -/
theorem outer_call_begins_nestedCalls :
    nestedCalls.take 1 ≠ [] ∧ validate (nestedCalls.take 1 ++ nestedCalls.drop 1) .reject = .ok () ∧
    LieWithin (nestedCalls.drop 1) (nestedCalls.take 1) ∧
    validate (nestedCalls.take 1) .reject = .ok () ∧
    ∃ layout whole,
      TraceLayout.compute (nestedCalls.take 1) .classic { rootPolicy := .reject } 800 = .ok layout ∧
      TraceLayout.compute (nestedCalls.take 1 ++ nestedCalls.drop 1) .classic { rootPolicy := .reject } 800 =
        .ok whole ∧
      layout.Begins whole := by
  have hne : nestedCalls.take 1 ≠ [] := by decide
  have hwithin : LieWithin (nestedCalls.drop 1) (nestedCalls.take 1) := by
    intro origin last horigin hlast
    have hstart : origin ≤ -5 := horigin.2 ⟨nestedCalls[0], by decide, rfl⟩
    have hstop : 9 ≤ last := hlast.2 ⟨nestedCalls[0], by decide, rfl⟩
    have hinner : ∀ s ∈ nestedCalls.drop 1, -5 ≤ s.startTime ∧ s.endTime ≤ 9 := by decide
    intro s hs
    have := hinner s hs
    omega
  obtain ⟨haccepted, hbegins⟩ := layout_begins_whole _ (nestedCalls.drop 1) hne
  exact ⟨hne, validate_nestedCalls, hwithin, haccepted .reject validate_nestedCalls,
    hbegins .classic { rootPolicy := .reject } 800 validate_nestedCalls hwithin⟩

end Waterfall
