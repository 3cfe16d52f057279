import Waterfall.Proofs.Layout.ActorRank
import Waterfall.Proofs.Layout.Equivariance
import Waterfall.Svg.Picture

/-!
# What a layout depends on

Three inputs of a layout that reach only a part of it, each said of two runs that differ in nothing else.

* The container width decides where bars and chips stand from left to right. Rows, colours, times, the
  measures of the axis, ticks and their labels, actors, and which rows connectors join do not depend on it
  (`TraceLayout.AlikeAtWidths`).
* Of a theme only the font size and the palette are looked at, and the palette reaches colours and nothing
  else: with the colours taken out (`TraceLayout.uncolored`) themes of one font size give one layout.
* What describes a span in its panel only, `Span.bare` takes out. The layout does not look at it at all, and
  so neither the dump nor the picture does.

The lemmas follow the pass over the spans: checks, nodes, axis, rows, connectors, legend.
-/

namespace Waterfall

/-! ## Container widths -/

/-- What a tick says, wherever it stands. -/
def Tick.reading (t : Tick) : Float × String := (t.value, t.label)

/-- What a chip says, wherever it stands. -/
def Chip.reading (c : Chip) : String × String := (c.actor, c.color)

/-- The axes agree in all but their width. -/
def Axis.SameTimes (a a' : Axis) : Prop := { a with width := a'.width } = a'

/-- The rows agree in all that does not run along the time axis. -/
structure Row.AlikeAtWidths (r r' : Row) : Prop where
  node : r.node = r'.node
  rowY : r.rowY = r'.rowY
  barHeight : r.barHeight = r'.barHeight
  color : r.color = r'.color

/-- The layouts agree in all that has to be the same in containers of any width. -/
structure TraceLayout.AlikeAtWidths (l l' : TraceLayout) : Prop where
  rows : List.Forall₂ Row.AlikeAtWidths l.rows l'.rows
  axis : ∃ a a', l.axis = some a ∧ l'.axis = some a' ∧ a.SameTimes a'
  ticks : l.ticks.map Tick.reading = l'.ticks.map Tick.reading
  legend : l.legend.map Chip.reading = l'.legend.map Chip.reading
  connectors : l.connectors.map Connector.ends = l'.connectors.map Connector.ends

theorem Axis.sameTimes_ofNodes (nodes : List Node) (width width' : Float32) :
    (ofNodes nodes width).SameTimes (ofNodes nodes width') := rfl

theorem Axis.reading_tickAt (a : Axis) (places : Nat) (value : Float) :
    (a.tickAt places value).reading = (value, .ofList ((Binary.ofFloat value).fixed places)) := rfl

/-- The width of an axis moves its ticks and does not change what they say. -/
theorem Axis.SameTimes.map_reading_ticks {a a' : Axis} (h : a.SameTimes a') (count : Nat) :
    (a.ticks count).map Tick.reading = (a'.ticks count).map Tick.reading := by
  have hmax : a'.axisMax = a.axisMax := by rw [← h]
  simp only [Axis.ticks, List.map_map, Function.comp_def, Axis.reading_tickAt, hmax]

theorem Row.alikeAtWidths_ofNodes (nodes : List Node) (axis axis' : Axis) (theme : Theme)
    (config : LayoutConfig) :
    List.Forall₂ Row.AlikeAtWidths (ofNodes nodes axis theme config) (ofNodes nodes axis' theme config) := by
  rw [List.forall₂_iff_get]
  refine ⟨by rw [length_ofNodes, length_ofNodes], ?_⟩
  intro i hi hi'
  simp only [List.get_eq_getElem, ofNodes, List.getElem_mapIdx]
  exact ⟨rfl, rfl, rfl, rfl⟩

theorem TraceLayout.alikeAtWidths_ofValid {spans : List Span} {policy : RootPolicy}
    (h : IsForest spans policy) (theme : Theme) (config : LayoutConfig) (width width' : Float32) :
    (ofValid spans theme config width).AlikeAtWidths (ofValid spans theme config width') := by
  have haxis := Axis.sameTimes_ofNodes (Node.ofSpans spans theme.palette).1
    (larger (config.chartWidth width) 0) (larger (config.chartWidth width') 0)
  -- Which rows are joined can be read off the spans, for either width.
  have hends : ∀ w, (ofValid spans theme config w).connectors.map Connector.ends =
      spans.filterMap fun s => s.parentId.map (s.id, ·) := by
    intro w
    have hl : ofValid spans theme config w = ofValid spans theme config w := rfl
    rw [connectors_eq_filterMap hl h, map_ends_filterMap_connectorTo? config (linked_rows hl h)]
    exact filterMap_ends_rows hl
  refine ⟨Row.alikeAtWidths_ofNodes _ _ _ theme config, ⟨_, _, rfl, rfl, haxis⟩,
    haxis.map_reading_ticks config.axisTicks, ?_, ?_⟩
  · exact (Legend.map_entry_chips _ width theme config).trans (Legend.map_entry_chips _ width' theme config).symm
  · rw [hends, hends]

/-! ## Colours -/

def Node.uncolored (n : Node) : Node := { n with color := "" }

def Row.uncolored (r : Row) : Row := { r with node := r.node.uncolored, color := "" }

def Chip.uncolored (c : Chip) : Chip := { c with color := "" }

/-- The layout with the empty text for each of its colours. -/
def TraceLayout.uncolored (l : TraceLayout) : TraceLayout :=
  { l with rows := l.rows.map Row.uncolored, legend := l.legend.map Chip.uncolored }

/-- The names in a table follow from the actors that appear, whatever the palette. -/
theorem ActorColors.Ranked.map_actor_eq {palette palette' actors : List String} {c c' : ActorColors}
    (h : c.Ranked palette actors) (h' : c'.Ranked palette' actors) :
    c.entries.map (·.1) = c'.entries.map (·.1) := by
  apply List.ext_getElem?
  intro slot
  apply Option.ext
  intro actor
  rw [h.getElem?_actors_iff, h'.getElem?_actors_iff]

theorem Node.map_uncolored_ofSpans (spans : List Span) (palette palette' : List String) :
    (ofSpans spans palette).1.map uncolored = (ofSpans spans palette').1.map uncolored := by
  apply map_eq_map_of_getElem?
  · rw [length_ofSpans, length_ofSpans]
  · intro row n hn
    have hrow : row < spans.length := by
      rw [← length_ofSpans spans palette']
      exact (List.getElem?_eq_some_iff.mp hn).1
    have hs := List.getElem?_eq_getElem hrow
    obtain ⟨color, hcolored⟩ := getElem?_ofSpans palette hs
    obtain ⟨color', hcolored'⟩ := getElem?_ofSpans palette' hs
    obtain rfl := Option.some.inj (hcolored'.symm.trans hn)
    exact ⟨_, hcolored, rfl⟩

theorem Axis.extent_map_uncolored (nodes : List Node) :
    extent (nodes.map Node.uncolored) = extent nodes := by
  rw [extent, List.foldl_map]
  rfl

/-- Rows take their colours over from the nodes, and of the theme they need the font size. -/
theorem Row.map_uncolored_ofNodes (nodes : List Node) (axis : Axis) {theme theme' : Theme}
    (hsize : theme.fontSize = theme'.fontSize) (config : LayoutConfig) :
    (ofNodes nodes axis theme config).map uncolored = ofNodes (nodes.map Node.uncolored) axis theme' config := by
  apply List.ext_getElem?
  intro i
  rw [List.getElem?_map, getElem?_ofNodes, getElem?_ofNodes, List.getElem?_map]
  cases nodes[i]? with
  | none => rfl
  | some n =>
    have hlabel : ∀ x y, labelOf axis theme config n x y = labelOf axis theme' config n.uncolored x y := by
      intro x y
      simp only [labelOf, hsize]
      rfl
    simp only [Option.map_some, ofNode, uncolored, hlabel]
    rfl

/-- Connectors look for rows by id and start where their bars do. -/
theorem TraceLayout.connectorsOf_map_uncolored (config : LayoutConfig) (rows : List Row) (nodes : List Node) :
    connectorsOf config (rows.map Row.uncolored) (nodes.map Node.uncolored) =
      connectorsOf config rows nodes := by
  have hanchor : ∀ id, Row.anchorOf? (rows.map Row.uncolored) id = Row.anchorOf? rows id := by
    intro id
    rw [Row.anchorOf?, ← List.map_reverse, List.find?_map, Option.map_map]
    rfl
  rw [connectorsOf, connectorsOf, ← List.map_drop, List.filterMap_map]
  apply List.filterMap_congr
  intro n _
  simp only [Function.comp_apply, connectorTo?, hanchor, Node.uncolored]

/-- Chips stand where they do for the sake of their actors. -/
theorem Legend.map_uncolored_chipsFrom {entries entries' : List (String × String)}
    (h : entries.map (·.1) = entries'.map (·.1)) (m : Measures) (width : String → Float32)
    (x y : Float32) :
    (chipsFrom m width x y entries).map Chip.uncolored =
      (chipsFrom m width x y entries').map Chip.uncolored := by
  induction entries generalizing entries' x y with
  | nil =>
    obtain rfl := List.map_eq_nil_iff.mp h.symm
    rfl
  | cons e rest ih =>
    obtain ⟨actor, color⟩ := e
    cases entries' with
    | nil => cases h
    | cons e' rest' =>
      obtain ⟨actor', color'⟩ := e'
      obtain ⟨rfl, hrest⟩ := List.cons.inj h
      simp only [chipsFrom, List.map_cons, ih hrest, Chip.uncolored]

theorem Legend.map_uncolored_chips {colors colors' : ActorColors}
    (h : colors.entries.map (·.1) = colors'.entries.map (·.1)) (containerWidth : Float32)
    {theme theme' : Theme} (hsize : theme.fontSize = theme'.fontSize) (config : LayoutConfig) :
    (chips colors containerWidth theme config).map Chip.uncolored =
      (chips colors' containerWidth theme' config).map Chip.uncolored := by
  have hmeasures : measures containerWidth theme config = measures containerWidth theme' config := by
    simp only [measures, hsize]
  have hwidth : chipWidth theme config = chipWidth theme' config := by
    funext actor
    simp only [chipWidth, hsize]
  rw [chips, chips, hmeasures, hwidth]
  exact map_uncolored_chipsFrom h _ _ _ _

/-- The height of a legend is that of its chips without their colours. -/
theorem Legend.height_map_uncolored (chips : List Chip) : height (chips.map Chip.uncolored) = height chips := by
  rw [height, List.foldl_map]
  rfl

/-- **Themes of one font size give one layout, but for the colours.** -/
theorem TraceLayout.uncolored_ofValid {theme theme' : Theme} (hsize : theme.fontSize = theme'.fontSize)
    (spans : List Span) (config : LayoutConfig) (containerWidth : Float32) :
    (ofValid spans theme config containerWidth).uncolored =
      (ofValid spans theme' config containerWidth).uncolored := by
  have hnodes := Node.map_uncolored_ofSpans spans theme.palette theme'.palette
  have hactors := (Node.ranked_ofSpans spans theme.palette).map_actor_eq
    (Node.ranked_ofSpans spans theme'.palette)
  have hlegend := Legend.map_uncolored_chips hactors containerWidth hsize config
  -- Each stage after the nodes is taken to the nodes without colours, which both palettes have in common.
  have hheight : Legend.height (Legend.chips (Node.ofSpans spans theme.palette).2 containerWidth theme config) =
      Legend.height (Legend.chips (Node.ofSpans spans theme'.palette).2 containerWidth theme' config) := by
    rw [← Legend.height_map_uncolored, hlegend, Legend.height_map_uncolored]
  have haxis : ∀ width, Axis.ofNodes (Node.ofSpans spans theme.palette).1 width =
      Axis.ofNodes (Node.ofSpans spans theme'.palette).1 width := by
    intro width
    rw [Axis.ofNodes, Axis.ofNodes, ← Axis.extent_map_uncolored, hnodes, Axis.extent_map_uncolored]
  have hrows : ∀ axis, (Row.ofNodes (Node.ofSpans spans theme.palette).1 axis theme config).map Row.uncolored =
      (Row.ofNodes (Node.ofSpans spans theme'.palette).1 axis theme' config).map Row.uncolored := by
    intro axis
    rw [Row.map_uncolored_ofNodes _ axis hsize, Row.map_uncolored_ofNodes _ axis rfl, hnodes]
  have hconnectors : ∀ axis,
      connectorsOf config (Row.ofNodes (Node.ofSpans spans theme.palette).1 axis theme config)
        (Node.ofSpans spans theme.palette).1 =
      connectorsOf config (Row.ofNodes (Node.ofSpans spans theme'.palette).1 axis theme' config)
        (Node.ofSpans spans theme'.palette).1 := by
    intro axis
    rw [← connectorsOf_map_uncolored, hrows, hnodes, connectorsOf_map_uncolored]
  simp only [ofValid, uncolored, haxis, hrows, hconnectors, hlegend, hheight, Row.length_ofNodes,
    Node.length_ofSpans]

/-! ## Descriptions -/

/-- The span without what only describes it in its panel. -/
def Span.bare (s : Span) : Span :=
  { s with kind := .internal, component := none, peer := none, layer := none, tags := [], logs := [], refs := [] }

section Bare

variable (spans : List Span)

theorem rowOf?_map_bare (id : String) : rowOf? (spans.map Span.bare) id = rowOf? spans id := by
  rw [rowOf?, List.findIdx?_map]
  rfl

theorem earliest_map_bare : earliest (spans.map Span.bare) = earliest spans := by
  rw [earliest, List.map_map]
  rfl

theorem rootCount_map_bare : rootCount (spans.map Span.bare) = rootCount spans := by
  rw [rootCount, List.countP_map]
  rfl

theorem rowDefect?_map_bare (row : Nat) (s : Span) :
    rowDefect? (spans.map Span.bare) row s.bare = rowDefect? spans row s := by
  simp only [rowDefect?, rowOf?_map_bare, earliest_map_bare]
  rfl

theorem parentDefect?_map_bare (row : Nat) (s : Span) :
    parentDefect? (spans.map Span.bare) row s.bare = parentDefect? spans row s := by
  simp only [parentDefect?, rowOf?_map_bare]
  rfl

/-- No check looks at a description. -/
theorem validate_map_bare (policy : RootPolicy) :
    validate (spans.map Span.bare) policy = validate spans policy := by
  have hrows : firstDefect? (rowDefect? (spans.map Span.bare)) 0 (spans.map Span.bare) =
      (firstDefect? (rowDefect? spans) 0 spans).map id :=
    Recasting.firstDefect?_map (fun row s _ => by rw [rowDefect?_map_bare, Option.map_id_fun, id]) 0
  have hparents : firstDefect? (parentDefect? (spans.map Span.bare)) 0 (spans.map Span.bare) =
      (firstDefect? (parentDefect? spans) 0 spans).map id :=
    Recasting.firstDefect?_map (fun row s _ => by rw [parentDefect?_map_bare, Option.map_id_fun, id]) 0
  have hroots : rootsDefect? (spans.map Span.bare) policy = rootsDefect? spans policy := by
    simp only [rootsDefect?, rootCount_map_bare]
  have hdefect : defect? (spans.map Span.bare) policy = defect? spans policy := by
    cases spans with
    | nil => rfl
    | cons first rest =>
      have hroot : rootDefect? ((first :: rest).map Span.bare) first.bare =
          rootDefect? (first :: rest) first := by
        simp only [rootDefect?, rowOf?_map_bare]
        rfl
      rw [Option.map_id_fun, id] at hrows hparents
      simp only [List.map_cons] at hrows hparents hroot hroots
      simp only [List.map_cons, defect?, hrows, hroot, hparents, hroots]
  rw [validate, validate, hdefect]

theorem Node.ofSpans_map_bare (palette : List String) :
    ofSpans (spans.map Span.bare) palette = ofSpans spans palette := by
  have hfrom : ∀ (origin : Int) (index : Nat) (colors : ActorColors),
      ofSpansFrom palette origin index colors (spans.map Span.bare) =
        ofSpansFrom palette origin index colors spans := by
    intro origin
    induction spans with
    | nil => exact fun _ _ => rfl
    | cons s rest ih =>
      intro index colors
      simp only [List.map_cons, ofSpansFrom, ih]
      rfl
  have horigin : earliestStart (spans.map Span.bare) = earliestStart spans := earliest_map_bare spans
  rw [ofSpans, ofSpans, horigin, hfrom]

/-- **Descriptions have no part in a layout.** -/
theorem TraceLayout.compute_map_bare (theme : Theme) (config : LayoutConfig) (containerWidth : Float32) :
    compute (spans.map Span.bare) theme config containerWidth = compute spans theme config containerWidth := by
  simp only [compute, validate_map_bare, ofValid, Node.ofSpans_map_bare]

end Bare

/-! ## Main statement -/

/-- **Where the width, the colours and the descriptions go.** The layouts of an accepted trace for any two
widths agree in rows, times and names, those for two themes of one font size in all but the colours. Other
descriptions of the same spans change neither the layout nor its dump nor the picture. -/
theorem layout_depends_on_no_more {spans : List Span} (theme : Theme) (config : LayoutConfig)
    (width : Float32) (hok : validate spans config.rootPolicy = .ok ()) :
    ∃ layout, TraceLayout.compute spans theme config width = .ok layout ∧
      (∀ width', ∃ layout', TraceLayout.compute spans theme config width' = .ok layout' ∧
        layout.AlikeAtWidths layout') ∧
      (∀ theme' : Theme, theme'.fontSize = theme.fontSize →
        ∃ layout', TraceLayout.compute spans theme' config width = .ok layout' ∧
          layout'.uncolored = layout.uncolored) ∧
      ∀ spans' : List Span, spans'.map Span.bare = spans.map Span.bare →
        ∃ layout', TraceLayout.compute spans' theme config width = .ok layout' ∧ layout' = layout ∧
          layout'.dump = layout.dump ∧ renderSvg layout' theme config = renderSvg layout theme config := by
  have h := validate_eq_ok_iff_isForest.mp hok
  refine ⟨_, TraceLayout.compute_of_ok hok, ?_, ?_, ?_⟩
  · intro width'
    exact ⟨_, TraceLayout.compute_of_ok hok, TraceLayout.alikeAtWidths_ofValid h theme config width width'⟩
  · intro theme' hsize
    exact ⟨_, TraceLayout.compute_of_ok hok, TraceLayout.uncolored_ofValid hsize spans config width⟩
  · intro spans' hbare
    refine ⟨_, ?_, rfl, rfl, rfl⟩
    rw [← TraceLayout.compute_map_bare, hbare, TraceLayout.compute_map_bare, TraceLayout.compute_of_ok hok]

/-- The nested calls in a container without room, in the modern theme, and with other descriptions. -/
theorem nestedCalls_depend_on_no_more :
    validate nestedCalls .reject = .ok () ∧ Theme.modern.fontSize = Theme.classic.fontSize ∧
    ∃ layout, TraceLayout.compute nestedCalls .classic { rootPolicy := .reject } 800 = .ok layout ∧
      (∃ layout', TraceLayout.compute nestedCalls .classic { rootPolicy := .reject } 0 = .ok layout' ∧
        layout.AlikeAtWidths layout') ∧
      (∃ layout', TraceLayout.compute nestedCalls .modern { rootPolicy := .reject } 800 = .ok layout' ∧
        layout'.uncolored = layout.uncolored) ∧
      TraceLayout.compute (nestedCalls.map fun s => { s with kind := .exit, tags := [⟨"k", s.label⟩] })
        .classic { rootPolicy := .reject } 800 = .ok layout := by
  obtain ⟨layout, hlayout, hwidths, hthemes, hdescriptions⟩ :=
    layout_depends_on_no_more .classic { rootPolicy := .reject } 800 validate_nestedCalls
  obtain ⟨_, hdescribed, rfl, -⟩ :=
    hdescriptions (nestedCalls.map fun s => { s with kind := .exit, tags := [⟨"k", s.label⟩] }) rfl
  exact ⟨validate_nestedCalls, rfl, _, hlayout, hwidths 0, hthemes .modern rfl, hdescribed⟩

end Waterfall
