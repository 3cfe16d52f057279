import Waterfall.Json.Typed
import Waterfall.Layout.Dump
import Waterfall.Proofs.Json.Indenting
import Waterfall.Proofs.Layout.AxisEnd
import Waterfall.Proofs.Layout.Connection
import Waterfall.Proofs.Trace.Forest

/-!
# Reading a dump back

A dump tells everything about a layout but places and sizes exactly: all strings, whole numbers and flags,
with lists in order. `LayoutFacts` is that part of a layout, and `LayoutFacts.ofJson?` takes it out of a
JSON document; from the document that is read of a dump it takes the facts of the layout
(`dump_restores_layout`).
-/

namespace Waterfall

/-! ## What a dump tells exactly -/

structure AxisFacts where
  maxExtent : Int
  digits : Int
  roundedScale : Int
  axisMax : Int
  ticks : List String
  deriving DecidableEq

structure RowFacts where
  id : String
  parentId : Option String
  index : Int
  startOffset : Int
  duration : Int
  actor : String
  color : String
  isError : Bool
  label : String
  deriving DecidableEq

structure ConnectorFacts where
  parentId : String
  childId : String
  route : String
  deriving DecidableEq

structure ChipFacts where
  actor : String
  color : String
  deriving DecidableEq

structure LayoutFacts where
  axis : Option AxisFacts
  rows : List RowFacts
  connectors : List ConnectorFacts
  legend : List ChipFacts
  error : Option String
  deriving DecidableEq

def Axis.facts (a : Axis) (ticks : List Tick) : AxisFacts :=
  ⟨a.maxExtent, a.digits, a.roundedScale, a.axisMax, ticks.map (·.label)⟩

def Row.facts (r : Row) : RowFacts where
  id := r.node.id
  parentId := r.node.parentId
  index := r.node.index
  startOffset := r.node.startOffset
  duration := r.node.duration
  actor := r.node.actor
  color := r.color
  isError := r.node.isError
  label := r.label.text

def Connector.facts (c : Connector) : ConnectorFacts := ⟨c.parentId, c.childId, c.route.name⟩

def Chip.facts (c : Chip) : ChipFacts := ⟨c.actor, c.color⟩

def TraceLayout.facts (l : TraceLayout) : LayoutFacts where
  axis := l.axis.map (·.facts l.ticks)
  rows := l.rows.map Row.facts
  connectors := l.connectors.map Connector.facts
  legend := l.legend.map Chip.facts
  error := l.error.map (·.message)

/-! ## Taking it out of a document -/

namespace Json

def asText? : Json → Option String
  | .text s => some s
  | _ => none

def asWhole? : Json → Option Int
  | .number (.whole n) => some n
  | _ => none

def asFlag? : Json → Option Bool
  | .flag b => some b
  | _ => none

@[simp] theorem asText?_text (s : String) : asText? (.text s) = some s := rfl

@[simp] theorem asWhole?_whole (n : Int) : asWhole? (.whole n) = some n := rfl

@[simp] theorem asFlag?_flag (b : Bool) : asFlag? (.flag b) = some b := rfl

/-- A value or null. -/
def asOptional? {α : Type} (read : Json → Option α) : Json → Option (Option α)
  | .null => some none
  | v => (read v).map some

def asList? {α : Type} (read : Json → Option α) : Json → Option (List α)
  | .list vs => vs.mapM read
  | _ => none

end Json

open Json

def AxisFacts.ofJson? (d : Json) : Option AxisFacts := do
  let maxExtent ← (← d.field? "max_extent").asWhole?
  let digits ← (← d.field? "digits").asWhole?
  let roundedScale ← (← d.field? "rounded_scale").asWhole?
  let axisMax ← (← d.field? "axis_max").asWhole?
  let ticks ← (← d.field? "ticks").asList? asText?
  return { maxExtent, digits, roundedScale, axisMax, ticks }

def RowFacts.ofJson? (d : Json) : Option RowFacts := do
  let id ← (← d.field? "id").asText?
  let parentId ← (← d.field? "parent_id").asOptional? asText?
  let index ← (← d.field? "index").asWhole?
  let startOffset ← (← d.field? "start_offset").asWhole?
  let duration ← (← d.field? "duration").asWhole?
  let actor ← (← d.field? "actor").asText?
  let color ← (← d.field? "color").asText?
  let isError ← (← d.field? "is_error").asFlag?
  let label ← (← d.field? "label").asText?
  return { id, parentId, index, startOffset, duration, actor, color, isError, label }

def ConnectorFacts.ofJson? (d : Json) : Option ConnectorFacts := do
  let parentId ← (← d.field? "parent").asText?
  let childId ← (← d.field? "child").asText?
  let route ← (← d.field? "route").asText?
  return { parentId, childId, route }

def ChipFacts.ofJson? (d : Json) : Option ChipFacts := do
  let actor ← (← d.field? "actor").asText?
  let color ← (← d.field? "color").asText?
  return { actor, color }

def LayoutFacts.ofJson? (d : Json) : Option LayoutFacts := do
  let axis ← (← d.field? "axis").asOptional? AxisFacts.ofJson?
  let rows ← (← d.field? "rows").asList? RowFacts.ofJson?
  let connectors ← (← d.field? "connectors").asList? ConnectorFacts.ofJson?
  let legend ← (← d.field? "legend").asList? ChipFacts.ofJson?
  let error ← (← d.field? "error").asOptional? asText?
  return { axis, rows, connectors, legend, error }

section Restored

variable {α β : Type} {read : Json → Option β} {write : α → Json} {f : α → β}

/-- A list is restored when each of its values is. -/
theorem asList?_restored {vs : List α} (h : ∀ v ∈ vs, read (write v).restored = some (f v)) :
    asList? read (Json.list (vs.map write)).restored = some (vs.map f) := by
  rw [restored_list, List.map_map]
  show (vs.map fun v => (write v).restored).mapM read = _
  induction vs with
  | nil => rfl
  | cons v vs ih =>
    rw [List.map_cons, List.mapM_cons, h v List.mem_cons_self,
      ih fun w hw => h w (List.mem_cons_of_mem v hw)]
    rfl

/-- An optional value is restored when it is and does not read as null does. -/
theorem asOptional?_restored (hnull : read .null = none) {value : Option α}
    (h : ∀ v, value = some v → read (write v).restored = some (f v)) :
    asOptional? read (Json.optional write value).restored = some (value.map f) := by
  cases value with
  | none => rfl
  | some v =>
    have hv := h v rfl
    show asOptional? read (write v).restored = _
    cases hd : (write v).restored with
    | null =>
      rw [hd, hnull] at hv
      cases hv
    | _ =>
      rw [hd] at hv
      simp [asOptional?, hv]

end Restored

/-! ## Whole numbers of a layout -/

/-- The whole numbers of a row are those of machine words. -/
structure Row.WholesFit (r : Row) : Prop where
  index : (r.node.index : Int) ≤ mostUnsigned
  startOffset : Time.fits r.node.startOffset
  duration : Time.fits r.node.duration

theorem withinRange_of_le {n : Nat} (h : (n : Int) ≤ mostUnsigned) : WithinRange n :=
  ⟨le_trans (by decide) (Int.natCast_nonneg n), h.trans (by decide)⟩

theorem Row.facts_restored {r : Row} (h : r.WholesFit) :
    RowFacts.ofJson? r.toJson.restored = some r.facts := by
  have hnames : r.toJson.DistinctNames := by simp [Row.toJson, DistinctNames]
  have hindex := restored_whole (withinRange_of_le h.index)
  have hstart := restored_whole (withinRange_of_fits h.startOffset)
  have hduration := restored_whole (withinRange_of_fits h.duration)
  have hparent : asOptional? asText? (Json.optional .text r.node.parentId).restored =
      some (r.node.parentId.map id) := asOptional?_restored rfl fun _ _ => rfl
  simp only [RowFacts.ofJson?, field?_restored hnames]
  simp [Row.toJson, List.lookup_cons, hindex, hstart, hduration, hparent, Row.facts]

theorem Connector.facts_restored (c : Connector) :
    ConnectorFacts.ofJson? c.toJson.restored = some c.facts := by
  have hnames : c.toJson.DistinctNames := by simp [Connector.toJson, DistinctNames]
  simp only [ConnectorFacts.ofJson?, field?_restored hnames]
  simp [Connector.toJson, List.lookup_cons, Connector.facts]

theorem Chip.facts_restored (c : Chip) : ChipFacts.ofJson? c.toJson.restored = some c.facts := by
  have hnames : c.toJson.DistinctNames := by simp [Chip.toJson, DistinctNames]
  simp only [ChipFacts.ofJson?, field?_restored hnames]
  simp [Chip.toJson, List.lookup_cons, Chip.facts]

/-- The whole numbers of an axis are those of machine words. -/
structure Axis.WholesFit (a : Axis) : Prop where
  maxExtent : Time.fits a.maxExtent
  digits : (a.digits : Int) ≤ mostUnsigned
  roundedScale : Time.fits a.roundedScale
  axisMax : Time.fits a.axisMax

theorem Axis.facts_restored {a : Axis} (h : a.WholesFit) (ticks : List Tick) :
    AxisFacts.ofJson? (a.toJson ticks).restored = some (a.facts ticks) := by
  have hnames : (a.toJson ticks).DistinctNames := by simp [Axis.toJson, DistinctNames]
  have hextent := restored_whole (withinRange_of_fits h.maxExtent)
  have hdigits := restored_whole (withinRange_of_le h.digits)
  have hscale := restored_whole (withinRange_of_fits h.roundedScale)
  have hmax := restored_whole (withinRange_of_fits h.axisMax)
  have hticks : asList? asText? (Json.list (ticks.map fun t => .text t.label)).restored =
      some (ticks.map (·.label)) := asList?_restored fun _ _ => rfl
  simp only [AxisFacts.ofJson?, field?_restored hnames]
  simp [Axis.toJson, List.lookup_cons, hextent, hdigits, hscale, hmax, hticks, Axis.facts]

/-- The whole numbers of a layout are those of machine words. -/
structure TraceLayout.WholesFit (l : TraceLayout) : Prop where
  axis : ∀ a, l.axis = some a → a.WholesFit
  rows : ∀ r ∈ l.rows, r.WholesFit

theorem TraceLayout.facts_restored {l : TraceLayout} (h : l.WholesFit) :
    LayoutFacts.ofJson? l.toJson.restored = some l.facts := by
  have hnames : l.toJson.DistinctNames := by simp [TraceLayout.toJson, DistinctNames]
  have haxis : asOptional? AxisFacts.ofJson? (Json.optional (·.toJson l.ticks) l.axis).restored =
      some (l.axis.map (·.facts l.ticks)) :=
    asOptional?_restored rfl fun a ha => Axis.facts_restored (h.axis a ha) l.ticks
  have hrows : asList? RowFacts.ofJson? (Json.list (l.rows.map Row.toJson)).restored =
      some (l.rows.map Row.facts) := asList?_restored fun r hr => Row.facts_restored (h.rows r hr)
  have hconnectors : asList? ConnectorFacts.ofJson?
      (Json.list (l.connectors.map Connector.toJson)).restored = some (l.connectors.map Connector.facts) :=
    asList?_restored fun c _ => c.facts_restored
  have hlegend : asList? ChipFacts.ofJson? (Json.list (l.legend.map Chip.toJson)).restored =
      some (l.legend.map Chip.facts) := asList?_restored fun c _ => c.facts_restored
  have herror : asOptional? asText? (Json.optional (fun e => .text e.message) l.error).restored =
      some (l.error.map (·.message)) := asOptional?_restored rfl fun _ _ => rfl
  simp only [LayoutFacts.ofJson?, field?_restored hnames]
  simp [TraceLayout.toJson, List.lookup_cons, haxis, hrows, hconnectors, hlegend, herror, TraceLayout.facts]

/-! ## The text of a dump -/

theorem Axis.allWritable {a : Axis} (h : a.WholesFit) (ticks : List Tick) : AllWritable (a.toJson ticks) :=
  ⟨withinRange_of_fits h.maxExtent, withinRange_of_le h.digits, withinRange_of_fits h.roundedScale,
    withinRange_of_fits h.axisMax, trivial, allWritableItems_map fun _ _ => trivial, trivial⟩

theorem Row.allWritable {r : Row} (h : r.WholesFit) : AllWritable r.toJson :=
  ⟨trivial, allWritable_optional fun _ _ => trivial, withinRange_of_le h.index,
    withinRange_of_fits h.startOffset, withinRange_of_fits h.duration, trivial, trivial, trivial, trivial,
    trivial, trivial, trivial, trivial, trivial⟩

theorem Connector.allWritable (c : Connector) : AllWritable c.toJson :=
  ⟨trivial, trivial, trivial, allWritableItems_map fun _ _ => ⟨trivial, trivial, trivial⟩, trivial⟩

theorem TraceLayout.allWritable {l : TraceLayout} (h : l.WholesFit) : AllWritable l.toJson :=
  ⟨trivial, trivial, trivial, trivial, allWritable_optional fun a ha => Axis.allWritable (h.axis a ha) l.ticks,
    allWritableItems_map fun r hr => Row.allWritable (h.rows r hr),
    allWritableItems_map fun c _ => c.allWritable,
    allWritableItems_map fun _ _ => ⟨trivial, trivial, trivial⟩,
    allWritable_optional fun _ _ => trivial, trivial⟩

/-- The points of connectors are the deepest that a dump has. -/
theorem TraceLayout.nesting_toJson_le (l : TraceLayout) : l.toJson.nesting ≤ 5 := by
  have haxis : ∀ a : Axis, (a.toJson l.ticks).nesting ≤ 2 := by
    intro a
    have hticks : nestingItems (l.ticks.map fun t => .text t.label) ≤ 0 :=
      nestingItems_map_le fun _ _ => Nat.le_refl 0
    simp only [Axis.toJson, whole, single, nesting, nestingMembers]
    omega
  have hrow : ∀ r : Row, r.toJson.nesting ≤ 1 := by
    intro r
    have hparent := nesting_optional_le (fun s => Nat.le_refl (Json.text s).nesting) r.node.parentId
    simp only [Row.toJson, whole, single, nesting, nestingMembers] at hparent ⊢
    omega
  have hconnector : ∀ c : Connector, c.toJson.nesting ≤ 3 := by
    intro c
    have hpoints : nestingItems (c.points.map Point.toJson) ≤ 1 :=
      nestingItems_map_le fun _ _ => Nat.le_refl 1
    simp only [Connector.toJson, nesting, nestingMembers]
    omega
  have hchip : ∀ c : Chip, c.toJson.nesting ≤ 1 := fun _ => Nat.le_refl 1
  have haxes := nesting_optional_le haxis l.axis
  have hrows := nestingItems_map_le fun r (_ : r ∈ l.rows) => hrow r
  have hconnectors := nestingItems_map_le fun c (_ : c ∈ l.connectors) => hconnector c
  have hlegend := nestingItems_map_le fun c (_ : c ∈ l.legend) => hchip c
  have herror : (Json.optional (fun e : ErrorPanel => .text e.message) l.error).nesting ≤ 0 :=
    nesting_optional_le (fun _ => Nat.le_refl 0) l.error
  simp only [TraceLayout.toJson, single, nesting, nestingMembers]
  omega

/-- The dump of a layout is a JSON document. -/
theorem TraceLayout.ofText_dump {l : TraceLayout} (h : l.WholesFit) :
    Json.ofText l.dump.toList = .ok l.toJson.restored := by
  refine ofText_toPrettyText (TraceLayout.allWritable h) ?_
  exact l.nesting_toJson_le.trans (by decide)

theorem TraceLayout.field?_axis_iff (l : TraceLayout) :
    l.toJson.restored.field? "axis" = some .null ↔ l.axis = none := by
  have hnames : l.toJson.DistinctNames := by simp [TraceLayout.toJson, DistinctNames]
  rw [field?_restored hnames]
  have hfield : l.toJson.field? "axis" = some (.optional (·.toJson l.ticks) l.axis) := rfl
  rw [hfield, Option.map_some]
  cases l.axis with
  | none => simp [Json.optional]
  | some a => simp [Json.optional, Axis.toJson, Json.restored, reread, arranged]

theorem TraceLayout.field?_error_iff (l : TraceLayout) (message : String) :
    l.toJson.restored.field? "error" = some (.text message) ↔ ∃ e, l.error = some e ∧ e.message = message := by
  have hnames : l.toJson.DistinctNames := by simp [TraceLayout.toJson, DistinctNames]
  rw [field?_restored hnames]
  have hfield : l.toJson.field? "error" = some (.optional (fun e => .text e.message) l.error) := rfl
  rw [hfield, Option.map_some]
  cases l.error with
  | none => simp [Json.optional]
  | some e => simp [Json.optional]

/-- The document tells the facts of the layout, and its axis is null exactly when its error is a text. -/
structure TraceLayout.ToldBy (l : TraceLayout) (d : Json) : Prop where
  facts : LayoutFacts.ofJson? d = some l.facts
  axis_null_iff : d.field? "axis" = some .null ↔ ∃ message, d.field? "error" = some (.text message)

theorem TraceLayout.toldBy_restored {l : TraceLayout} (h : l.WholesFit)
    (heither : l.axis = none ↔ ∃ e, l.error = some e) : l.ToldBy l.toJson.restored where
  facts := TraceLayout.facts_restored h
  axis_null_iff := by
    rw [l.field?_axis_iff, heither]
    constructor
    · rintro ⟨e, he⟩
      exact ⟨e.message, (l.field?_error_iff _).mpr ⟨e, he, rfl⟩⟩
    · rintro ⟨message, hmessage⟩
      obtain ⟨e, he, -⟩ := (l.field?_error_iff message).mp hmessage
      exact ⟨e, he⟩

/-- Nothing that a dump tells exactly is lost in its text. -/
theorem TraceLayout.facts_eq_of_dump_eq {l l' : TraceLayout} (h : l.WholesFit) (h' : l'.WholesFit)
    (hdump : l.dump = l'.dump) : l.facts = l'.facts := by
  have hread := TraceLayout.ofText_dump h
  rw [hdump, TraceLayout.ofText_dump h'] at hread
  have hfacts := TraceLayout.facts_restored h
  rw [← Except.ok.inj hread, TraceLayout.facts_restored h'] at hfacts
  exact (Option.some.inj hfacts).symm

/-! ## Layouts that are computed -/

/-- Every node has the index of a span. -/
theorem Node.exists_eq_ofSpan {spans : List Span} {palette : List String} {n : Node}
    (hn : n ∈ (Node.ofSpans spans palette).1) :
    ∃ row color s, row < spans.length ∧ n = Node.ofSpan (Node.earliestStart spans) row color s := by
  obtain ⟨row, hrow⟩ := List.getElem?_of_mem hn
  have hlt : row < spans.length := by
    have := (List.getElem?_eq_some_iff.mp hrow).1
    rwa [Node.length_ofSpans] at this
  obtain ⟨color, hcolor⟩ := Node.getElem?_ofSpans palette (List.getElem?_eq_getElem hlt)
  exact ⟨row, color, _, hlt, Option.some.inj (hrow.symm.trans hcolor)⟩

theorem Axis.wholesFit_ofNodes (nodes : List Node) (width : Float32) :
    (Axis.ofNodes nodes width).WholesFit := by
  have h := Axis.inRange_ofExtent (Axis.extent_nonneg nodes) (Axis.extent_le_most nodes) width
  refine ⟨h.maxExtent, ?_, h.roundedScale, h.axisMax⟩
  have hdigits : ((Axis.ofNodes nodes width).digits : Int) ≤ 19 := by exact_mod_cast h.digits.2
  exact hdigits.trans (by decide)

namespace TraceLayout

variable {spans : List Span} (theme : Theme) (config : LayoutConfig) (containerWidth : Float32)

theorem wholesFit_ofValid (h : (spans.length : Int) ≤ mostUnsigned) :
    (ofValid spans theme config containerWidth).WholesFit := by
  constructor
  · intro a ha
    obtain rfl := Option.some.inj ha
    exact Axis.wholesFit_ofNodes _ _
  · intro r hr
    -- Rows keep the nodes, and nodes have their numbers from the places and the clamped times of spans.
    have hnode : r.node ∈ (Node.ofSpans spans theme.palette).1 := by
      rw [← map_node_rows (rfl : ofValid spans theme config containerWidth = _)]
      exact List.mem_map_of_mem hr
    obtain ⟨row, color, s, hlt, heq⟩ := Node.exists_eq_ofSpan hnode
    refine ⟨?_, ?_, ?_⟩ <;> rw [heq]
    · show (row : Int) ≤ mostUnsigned
      omega
    · exact Time.fits_clamp _
    · exact Time.fits_clamp _

theorem wholesFit_computeOrError (h : (spans.length : Int) ≤ mostUnsigned) :
    (computeOrError spans theme config containerWidth).WholesFit := by
  cases hv : validate spans config.rootPolicy with
  | ok _ =>
    rw [computeOrError_of_ok hv]
    exact wholesFit_ofValid theme config containerWidth h
  | error d =>
    rw [computeOrError_of_error hv]
    exact ⟨fun a ha => (nomatch ha), fun r hr => (nomatch hr)⟩

/-- Either an axis or an error is there. -/
theorem axis_eq_none_iff (spans : List Span) :
    (computeOrError spans theme config containerWidth).axis = none ↔
      ∃ e, (computeOrError spans theme config containerWidth).error = some e := by
  cases hv : validate spans config.rootPolicy with
  | ok _ =>
    rw [computeOrError_of_ok hv]
    simp [ofValid]
  | error d =>
    rw [computeOrError_of_error hv]
    simp [ofMessage]

end TraceLayout

/-! ## Main statement -/

open TraceLayout in
/-- **A dump is read back.** Its text is a JSON document from which the facts of the layout are taken: every
string, whole number and flag as it was, with rows, connectors, ticks and chips in order; there the axis is
null exactly when the error is a text. So layouts with the same dump have the same facts. -/
theorem dump_restores_layout {spans spans' : List Span} (h : (spans.length : Int) ≤ mostUnsigned)
    (h' : (spans'.length : Int) ≤ mostUnsigned) (theme theme' : Theme) (config config' : LayoutConfig)
    (width width' : Float32) :
    (∃ d, Json.ofText (computeOrError spans theme config width).dump.toList = .ok d ∧
      (computeOrError spans theme config width).ToldBy d) ∧
    ((computeOrError spans theme config width).dump = (computeOrError spans' theme' config' width').dump →
      (computeOrError spans theme config width).facts =
        (computeOrError spans' theme' config' width').facts) := by
  have hfits := wholesFit_computeOrError theme config width h
  have hfits' := wholesFit_computeOrError theme' config' width' h'
  refine ⟨⟨_, ofText_dump hfits, ?_⟩, facts_eq_of_dump_eq hfits hfits'⟩
  exact toldBy_restored hfits (axis_eq_none_iff theme config width spans)

/-- A trace that is laid out and one that is refused. -/
theorem nestedCalls_dump_restored :
    (∃ d, Json.ofText (TraceLayout.computeOrError nestedCalls .classic {} 800).dump.toList = .ok d ∧
      (TraceLayout.computeOrError nestedCalls .classic {} 800).ToldBy d) ∧
    ((TraceLayout.computeOrError nestedCalls .classic {} 800).dump =
        (TraceLayout.computeOrError mutualCalls .classic {} 800).dump →
      (TraceLayout.computeOrError nestedCalls .classic {} 800).facts =
        (TraceLayout.computeOrError mutualCalls .classic {} 800).facts) :=
  dump_restores_layout (by decide) (by decide) .classic .classic {} {} 800 800

end Waterfall
