import Mathlib.Data.List.Find
import Mathlib.Data.Set.Function
import Waterfall.Layout.Basic
import Waterfall.Proofs.Trace.Forest

/-!
# What a layout does not look at

A layout pass compares ids and subtracts times, and that is all it does with either. So spans under other
names, and with all times moved by one amount, have the same layout under those names
(`compute_recast`). A refused list is refused for the same defect in the same rows.

A `Recasting` holds the names and the amount. It has to keep apart the ids that occur in the trace, those
of missing parents included, and nothing is asked of it elsewhere. The lemmas follow the pass: checks,
nodes, axis, rows, connectors.
-/

namespace Waterfall

/-- Other names for ids, and an amount by which times are moved. -/
structure Recasting where
  rename : String → String
  shift : Int

/-- The ids that occur in a trace, as those of spans or of parents. -/
def occurringIds (spans : List Span) : Set String :=
  {id | ∃ s ∈ spans, s.id = id ∨ s.parentId = some id}

namespace Recasting

/-! ## Recast data -/

section Data

variable (c : Recasting)

def span (s : Span) : Span :=
  { s with
    id := c.rename s.id
    parentId := s.parentId.map c.rename
    startTime := s.startTime + c.shift
    endTime := s.endTime + c.shift }

def node (n : Node) : Node :=
  { n with
    id := c.rename n.id
    parentId := n.parentId.map c.rename
    startTime := n.startTime + c.shift
    endTime := n.endTime + c.shift }

def row (r : Row) : Row := { r with node := c.node r.node }

def connector (k : Connector) : Connector :=
  { k with parentId := c.rename k.parentId, childId := c.rename k.childId }

def layout (l : TraceLayout) : TraceLayout :=
  { l with rows := l.rows.map c.row, connectors := l.connectors.map c.connector }

/-- Rows and counts stay, ids and times change. -/
def defect : Defect → Defect
  | .empty => .empty
  | .duplicateId id first second => .duplicateId (c.rename id) first second
  | .danglingParent id parent => .danglingParent (c.rename id) (c.rename parent)
  | .parentAfterChild id parent childRow parentRow =>
    .parentAfterChild (c.rename id) (c.rename parent) childRow parentRow
  | .missingRoot id => .missingRoot (c.rename id)
  | .multipleRoots count => .multipleRoots count
  | .negativeDuration id start stop =>
    .negativeDuration (c.rename id) (start + c.shift) (stop + c.shift)
  | .timeOutOfRange id start stop => .timeOutOfRange (c.rename id) (start + c.shift) (stop + c.shift)

/-- Different ids of the trace get different names. -/
def KeepsApart (spans : List Span) : Prop := Set.InjOn c.rename (occurringIds spans)

end Data

variable {c : Recasting} {spans : List Span}

theorem id_mem_occurringIds {s : Span} (hs : s ∈ spans) : s.id ∈ occurringIds spans :=
  ⟨s, hs, .inl rfl⟩

theorem parent_mem_occurringIds {s : Span} (hs : s ∈ spans) {p : String} (hp : s.parentId = some p) :
    p ∈ occurringIds spans :=
  ⟨s, hs, .inr hp⟩

theorem KeepsApart.rename_beq (h : c.KeepsApart spans) {id id' : String} (hid : id ∈ occurringIds spans)
    (hid' : id' ∈ occurringIds spans) : (c.rename id == c.rename id') = (id == id') := by
  rw [Bool.eq_iff_iff, beq_iff_eq, beq_iff_eq]
  exact h.eq_iff hid hid'

/-! ## Checks -/

theorem findIdx?_congr {α : Type} {p q : α → Bool} {xs : List α} (h : ∀ x ∈ xs, p x = q x) :
    xs.findIdx? p = xs.findIdx? q := by
  induction xs with
  | nil => rfl
  | cons x rest ih =>
    rw [List.findIdx?_cons, List.findIdx?_cons, h x List.mem_cons_self,
      ih fun y hy => h y (List.mem_cons_of_mem x hy)]

/-- An id stands in the row in which its new name stands. -/
theorem rowOf?_recast (h : c.KeepsApart spans) {id : String} (hid : id ∈ occurringIds spans) :
    rowOf? (spans.map c.span) (c.rename id) = rowOf? spans id := by
  rw [rowOf?, rowOf?, List.findIdx?_map]
  apply findIdx?_congr
  intro s hs
  exact h.rename_beq (id_mem_occurringIds hs) hid

theorem earliest_recast (hne : spans ≠ []) :
    earliest (spans.map c.span) = earliest spans + c.shift := by
  have hleast := isLeast_earliest hne
  have hmoved : IsLeast (startTimes (spans.map c.span)) (earliest spans + c.shift) := by
    constructor
    · obtain ⟨s, hs, hstart⟩ := hleast.1
      refine ⟨c.span s, List.mem_map_of_mem hs, ?_⟩
      rw [← hstart]
      rfl
    · rintro t ⟨moved, hmem, rfl⟩
      obtain ⟨s, hs, rfl⟩ := List.mem_map.mp hmem
      have : earliest spans ≤ s.startTime := hleast.2 ⟨s, hs, rfl⟩
      show earliest spans + c.shift ≤ s.startTime + c.shift
      omega
  exact (isLeast_earliest (by simpa using hne)).unique hmoved

/-- Only differences are measured. -/
theorem measurable_recast (origin : Int) (s : Span) :
    measurable (origin + c.shift) (c.span s) = measurable origin s := by
  have hduration : (c.span s).endTime - (c.span s).startTime = s.endTime - s.startTime := by
    simp only [span]
    omega
  have hend : (c.span s).endTime - (origin + c.shift) = s.endTime - origin := by
    simp only [span]
    omega
  rw [measurable, measurable, hduration, hend]

theorem rowDefect?_recast (h : c.KeepsApart spans) (row : Nat) {s : Span} (hs : s ∈ spans) :
    rowDefect? (spans.map c.span) row (c.span s) = (rowDefect? spans row s).map c.defect := by
  have hfirst : rowOf? (spans.map c.span) (c.span s).id = rowOf? spans s.id :=
    rowOf?_recast h (id_mem_occurringIds hs)
  have hlt : (c.span s).endTime < (c.span s).startTime ↔ s.endTime < s.startTime := by
    simp only [span]
    omega
  simp only [rowDefect?, hfirst, hlt, earliest_recast (List.ne_nil_of_mem hs), measurable_recast]
  split_ifs <;> rfl

theorem parentDefect?_recast (h : c.KeepsApart spans) (row : Nat) {s : Span} (hs : s ∈ spans) :
    parentDefect? (spans.map c.span) row (c.span s) = (parentDefect? spans row s).map c.defect := by
  cases hp : s.parentId with
  | none => simp [parentDefect?, span, hp]
  | some p =>
    have hnamed : (c.span s).parentId = some (c.rename p) := by simp [span, hp]
    have hrow := rowOf?_recast h (parent_mem_occurringIds hs hp)
    simp only [parentDefect?, hp, hnamed, hrow]
    cases rowOf? spans p with
    | none => rfl
    | some parentRow =>
      simp only
      split_ifs <;> rfl

theorem rootDefect?_recast (h : c.KeepsApart spans) {s : Span} (hs : s ∈ spans) :
    rootDefect? (spans.map c.span) (c.span s) = (rootDefect? spans s).map c.defect := by
  cases hp : s.parentId with
  | none => simp [rootDefect?, span, hp]
  | some p =>
    have hnamed : (c.span s).parentId = some (c.rename p) := by simp [span, hp]
    have hrow := rowOf?_recast h (parent_mem_occurringIds hs hp)
    simp only [rootDefect?, hp, hnamed, hrow, Option.map_some]
    split_ifs <;> rfl

theorem rootsDefect?_recast (spans : List Span) (policy : RootPolicy) :
    rootsDefect? (spans.map c.span) policy = (rootsDefect? spans policy).map c.defect := by
  have hcount : rootCount (spans.map c.span) = rootCount spans := by
    rw [rootCount, rootCount, List.countP_map]
    exact List.countP_congr fun s _ => by simp [Span.isRoot, span]
  simp only [rootsDefect?, hcount]
  split_ifs <;> rfl

/-- A check that agrees row by row finds the same first defect. -/
theorem firstDefect?_map {check check' : Nat → Span → Option Defect} {f : Span → Span}
    {g : Defect → Defect} {part : List Span}
    (h : ∀ row, ∀ s ∈ part, check' row (f s) = (check row s).map g) (row : Nat) :
    firstDefect? check' row (part.map f) = (firstDefect? check row part).map g := by
  induction part generalizing row with
  | nil => rfl
  | cons s rest ih =>
    have htail := ih (fun row s hs => h row s (List.mem_cons_of_mem _ hs)) (row + 1)
    simp only [List.map_cons, firstDefect?, Option.orElse_eq_or, h row s List.mem_cons_self, htail,
      Option.map_or]

theorem defect?_recast (h : c.KeepsApart spans) (policy : RootPolicy) :
    defect? (spans.map c.span) policy = (defect? spans policy).map c.defect := by
  have hrows := firstDefect?_map (fun row s hs => rowDefect?_recast h row hs) 0
  have hparents := firstDefect?_map (fun row s hs => parentDefect?_recast h row hs) 0
  cases spans with
  | nil => rfl
  | cons first rest =>
    have hroot := rootDefect?_recast h (List.mem_cons_self (a := first))
    have hroots := rootsDefect?_recast (c := c) (first :: rest) policy
    simp only [List.map_cons] at hrows hparents hroot hroots
    simp only [List.map_cons, defect?, Option.orElse_eq_or, hrows, hroot, hparents, hroots, Option.map_or]

/-- A recast trace is accepted or refused as it was. -/
theorem validate_recast (h : c.KeepsApart spans) (policy : RootPolicy) :
    validate (spans.map c.span) policy = (validate spans policy).mapError c.defect := by
  simp only [validate, defect?_recast h]
  cases defect? spans policy <;> rfl

/-! ## Nodes and rows -/

theorem ofSpan_recast (origin : Int) (index : Nat) (color : String) (s : Span) :
    Node.ofSpan (origin + c.shift) index color (c.span s) = c.node (Node.ofSpan origin index color s) := by
  have hduration : s.endTime + c.shift - (s.startTime + c.shift) = s.endTime - s.startTime := by omega
  have hoffset : s.startTime + c.shift - (origin + c.shift) = s.startTime - origin := by omega
  simp only [Node.ofSpan, span, node, hduration, hoffset]

theorem ofSpansFrom_recast (palette : List String) (origin : Int) (index : Nat) (colors : ActorColors)
    (part : List Span) :
    Node.ofSpansFrom palette (origin + c.shift) index colors (part.map c.span) =
      ((Node.ofSpansFrom palette origin index colors part).1.map c.node,
        (Node.ofSpansFrom palette origin index colors part).2) := by
  induction part generalizing index colors with
  | nil => rfl
  | cons s rest ih =>
    have hactor : (c.span s).actor = s.actor := rfl
    simp only [List.map_cons, Node.ofSpansFrom, hactor, ofSpan_recast, ih]

theorem ofSpans_recast (palette : List String) :
    Node.ofSpans (spans.map c.span) palette =
      ((Node.ofSpans spans palette).1.map c.node, (Node.ofSpans spans palette).2) := by
  by_cases hne : spans = []
  · subst hne
    rfl
  · have horigin : Node.earliestStart (spans.map c.span) = Node.earliestStart spans + c.shift :=
      earliest_recast hne
    rw [Node.ofSpans, horigin]
    exact ofSpansFrom_recast ..

theorem extent_recast (nodes : List Node) : Axis.extent (nodes.map c.node) = Axis.extent nodes := by
  rw [Axis.extent, List.foldl_map]
  rfl

theorem ofNodes_recast (nodes : List Node) (axis : Axis) (theme : Theme) (config : LayoutConfig) :
    Row.ofNodes (nodes.map c.node) axis theme config = (Row.ofNodes nodes axis theme config).map c.row := by
  apply List.ext_getElem?
  intro i
  rw [Row.getElem?_ofNodes, List.getElem?_map, List.getElem?_map, Row.getElem?_ofNodes]
  cases nodes[i]? <;> rfl

/-! ## Connectors -/

/-- The ids of the rows and of their parents occur in the trace. -/
def OccurIn (spans : List Span) (nodes : List Node) : Prop :=
  ∀ n ∈ nodes, n.id ∈ occurringIds spans ∧ ∀ p, n.parentId = some p → p ∈ occurringIds spans

theorem occurIn_ofSpans (spans : List Span) (palette : List String) :
    OccurIn spans (Node.ofSpans spans palette).1 := by
  intro n hn
  have hpair : (n.id, n.parentId) ∈ spans.map fun s => (s.id, s.parentId) := by
    rw [← Node.map_ofSpans (f := fun n => (n.id, n.parentId)) (fun _ _ _ _ => rfl) spans palette]
    exact List.mem_map_of_mem hn
  obtain ⟨s, hs, heq⟩ := List.mem_map.mp hpair
  obtain ⟨hid, hparent⟩ := Prod.mk.inj heq
  refine ⟨hid ▸ id_mem_occurringIds hs, ?_⟩
  intro p hp
  exact parent_mem_occurringIds hs (hparent.trans hp)

theorem anchorOf?_recast (h : c.KeepsApart spans) {rows : List Row}
    (hrows : OccurIn spans (rows.map (·.node))) {id : String} (hid : id ∈ occurringIds spans) :
    Row.anchorOf? (rows.map c.row) (c.rename id) = Row.anchorOf? rows id := by
  have hfind : rows.reverse.find? ((fun r : Row => r.node.id == c.rename id) ∘ c.row) =
      rows.reverse.find? (·.node.id == id) := by
    apply List.find?_congr
    intro r hr
    have hmem : r.node ∈ rows.map (·.node) := List.mem_map_of_mem (List.mem_reverse.mp hr)
    exact h.rename_beq (hrows _ hmem).1 hid
  rw [Row.anchorOf?, ← List.map_reverse, List.find?_map, hfind, Option.map_map]
  rfl

theorem connectorTo?_recast (h : c.KeepsApart spans) (config : LayoutConfig) {rows : List Row}
    (hrows : OccurIn spans (rows.map (·.node))) {n : Node} (hn : n ∈ rows.map (·.node)) :
    TraceLayout.connectorTo? config (rows.map c.row) (c.node n) =
      (TraceLayout.connectorTo? config rows n).map c.connector := by
  obtain ⟨hid, hparent⟩ := hrows n hn
  have hchild : Row.anchorOf? (rows.map c.row) (c.node n).id = Row.anchorOf? rows n.id :=
    anchorOf?_recast h hrows hid
  cases hp : n.parentId with
  | none => simp [TraceLayout.connectorTo?, node, hp]
  | some p =>
    have hnamed : (c.node n).parentId = some (c.rename p) := by simp [node, hp]
    have hanchor := anchorOf?_recast h hrows (hparent p hp)
    simp only [TraceLayout.connectorTo?, hp, hnamed, hanchor, hchild, Option.bind_eq_bind, Option.bind_some]
    cases Row.anchorOf? rows p <;> cases Row.anchorOf? rows n.id <;> rfl

theorem connectorsOf_recast (h : c.KeepsApart spans) (config : LayoutConfig) {rows : List Row}
    (hrows : OccurIn spans (rows.map (·.node))) :
    TraceLayout.connectorsOf config (rows.map c.row) ((rows.map (·.node)).map c.node) =
      (TraceLayout.connectorsOf config rows (rows.map (·.node))).map c.connector := by
  rw [TraceLayout.connectorsOf, TraceLayout.connectorsOf, ← List.map_drop, List.filterMap_map,
    List.map_filterMap]
  apply List.filterMap_congr
  intro n hn
  exact connectorTo?_recast h config hrows (List.mem_of_mem_drop hn)

/-! ## The whole pass -/

theorem ofValid_recast (h : c.KeepsApart spans) (theme : Theme) (config : LayoutConfig)
    (containerWidth : Float32) :
    TraceLayout.ofValid (spans.map c.span) theme config containerWidth =
      c.layout (TraceLayout.ofValid spans theme config containerWidth) := by
  have hoccur := occurIn_ofSpans spans theme.palette
  have hconnectors : ∀ axis, TraceLayout.connectorsOf config
      ((Row.ofNodes (Node.ofSpans spans theme.palette).1 axis theme config).map c.row)
      ((Node.ofSpans spans theme.palette).1.map c.node) =
      (TraceLayout.connectorsOf config (Row.ofNodes (Node.ofSpans spans theme.palette).1 axis theme config)
        (Node.ofSpans spans theme.palette).1).map c.connector := by
    intro axis
    have hnodes := Row.map_node_ofNodes (Node.ofSpans spans theme.palette).1 axis theme config
    have hrows := connectorsOf_recast h config (hnodes.symm ▸ hoccur)
    rwa [hnodes] at hrows
  simp only [TraceLayout.ofValid, layout, ofSpans_recast, Axis.ofNodes, extent_recast, ofNodes_recast,
    hconnectors, List.length_map]

/-- **Ids matter only through equality, and times only through differences.** -/
theorem compute_recast (h : c.KeepsApart spans) (theme : Theme) (config : LayoutConfig)
    (containerWidth : Float32) :
    TraceLayout.compute (spans.map c.span) theme config containerWidth =
      ((TraceLayout.compute spans theme config containerWidth).map c.layout).mapError c.defect := by
  simp only [TraceLayout.compute, validate_recast h, ofValid_recast h]
  cases validate spans config.rootPolicy <;> rfl

end Recasting

end Waterfall
