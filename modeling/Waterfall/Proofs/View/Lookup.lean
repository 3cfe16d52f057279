import Waterfall.Proofs.Layout.Connection
import Waterfall.Proofs.View.Coherence

/-!
# The row and the panel of an id

A view opens the panel of an id by searching its spans, and its layout finds the row of an id by searching
its rows. Both take the first match. In a view that was reached by any run of changes and whose spans are
accepted, the two searches end at the same span for every id, or both at none (`lookupsAgree_run`): the
stored layout is that of the spans, rows stand for spans one to one, and ids are distinct.

`SpanDetail.Describes` says of which span a panel is, from what the panel shows.
-/

namespace Waterfall

/-! ## What a panel shows of its span -/

/-- The item shows a tag under its key. -/
def DetailItem.Repeats (i : DetailItem) (t : Tag) : Prop := i.title = t.key ∧ i.content = t.value

/-- The tab shows a log entry. -/
structure LogTab.Shows (tab : LogTab) (l : LogEntry) : Prop where
  time : tab.time = l.time
  label : tab.label = formatMinute l.time
  items : List.Forall₂ DetailItem.Repeats tab.items l.data

/-- The entry shows where a reference leads. -/
def RelatedTrace.Repeats (r : RelatedTrace) (ref : Reference) : Prop :=
  r.kind = ref.kind.getD "" ∧ r.traceId = ref.traceId.getD ""

/-- The panel shows the span: six items that every span has, its layer if it has one, its tags and its log
entries in order, and, of a root only, where its references lead. -/
structure SpanDetail.Describes (d : SpanDetail) (s : Span) : Prop where
  spanId : d.spanId = s.id
  items : ∃ fixed tags, d.items = fixed ++ s.layer.toList.map (⟨"layer", ·⟩) ++ tags ∧
    fixed.map (·.title) = ["operation name", "duration", "span type", "component", "peer", "is error"] ∧
    fixed.map (·.content) = [s.label, formatTimestamp s.startTime ++ " - " ++ formatTimestamp s.endTime,
      s.kind.name, s.component.getD "", s.peer.getD "", if s.isError then "true" else "false"] ∧
    List.Forall₂ DetailItem.Repeats tags s.tags
  logs : List.Forall₂ LogTab.Shows d.logs s.logs
  related : d.relatedTraces.isSome ↔ s.parentId = none
  references : ∀ rs ∈ d.relatedTraces, List.Forall₂ RelatedTrace.Repeats rs s.refs

/-- A list of what is made of each member shows each member. -/
theorem forall₂_map_left_of_forall {α β : Type} {P : β → α → Prop} {f : α → β} (h : ∀ a, P (f a) a)
    (xs : List α) : List.Forall₂ P (xs.map f) xs :=
  List.forall₂_map_left_iff.mpr (List.forall₂_same.mpr fun a _ => h a)

theorem SpanDetail.describes_ofSpan (s : Span) : (ofSpan s).Describes s := by
  have htags : ∀ tags : List Tag, List.Forall₂ DetailItem.Repeats (tags.map .ofTag) tags :=
    forall₂_map_left_of_forall fun _ => ⟨rfl, rfl⟩
  refine ⟨rfl, ⟨fixedItems s, s.tags.map .ofTag, ?_, rfl, rfl, htags s.tags⟩,
    forall₂_map_left_of_forall (fun l => ⟨rfl, rfl, htags l.data⟩) s.logs, ?_, ?_⟩
  · cases hlayer : s.layer <;> simp [ofSpan, hlayer]
  · cases hparent : s.parentId <;> simp [ofSpan, Span.isRoot, hparent]
  · intro rs hrs
    obtain ⟨-, rfl⟩ : s.isRoot = true ∧ s.refs.map RelatedTrace.ofReference = rs := by
      simpa [ofSpan] using hrs
    exact forall₂_map_left_of_forall (fun _ => ⟨rfl, rfl⟩) s.refs

/-! ## Both searches -/

section Searches

variable {spans : List Span} {policy : RootPolicy}

/-- With distinct ids the first span with the id of a span is that span. -/
theorem findSpan?_of_mem (h : IsForest spans policy) {s : Span} (hs : s ∈ spans) :
    findSpan? spans s.id = some s :=
  find?_eq_some_of_nodup Span.id h.distinct hs

variable {theme : Theme} {config : LayoutConfig} {containerWidth : Float32} {layout : TraceLayout}

/-- The row found for the id of a span stands in the place of the span. -/
theorem TraceLayout.exists_rowFor?_eq (hl : ofValid spans theme config containerWidth = layout)
    (h : IsForest spans policy) {s : Span} (hs : s ∈ spans) :
    ∃ (row : Nat) (r : Row), spans[row]? = some s ∧ layout.rows[row]? = some r ∧ layout.rowFor? s.id = some r := by
  obtain ⟨row, hrow⟩ := List.getElem?_of_mem hs
  have hlength : layout.rows.length = spans.length := by
    simpa using congrArg List.length (map_id_rows hl)
  have hlt : row < layout.rows.length := by
    rw [hlength]
    exact (List.getElem?_eq_some_iff.mp hrow).1
  have hr : layout.rows[row]? = some layout.rows[row] := List.getElem?_eq_getElem hlt
  -- The row in this place has the id of the span, and no other row has it.
  have hfound := find?_eq_some_of_nodup (·.node.id) (linked_rows hl h).distinct (List.getElem_mem hlt)
  rw [(shows_of_getElem? hl hrow hr).id] at hfound
  exact ⟨row, _, hrow, hr, hfound⟩

/-- A row is found for the ids of spans and for no others. -/
theorem TraceLayout.isSome_rowFor?_iff (hl : ofValid spans theme config containerWidth = layout)
    (id : String) : (layout.rowFor? id).isSome ↔ ∃ s ∈ spans, s.id = id := by
  have hids := map_id_rows hl
  have hrows : (layout.rowFor? id).isSome ↔ id ∈ layout.rows.map (·.node.id) := by
    simp [rowFor?, List.find?_isSome]
  rw [hrows, hids, List.mem_map]

end Searches

namespace TraceView

/-- A panel is opened for the ids of spans and for no others. -/
theorem isSome_fst_selectSpan_iff (v : TraceView) (id : String) :
    (v.selectSpan id).1.isSome ↔ ∃ s ∈ v.spans, s.id = id := by
  rw [fst_selectSpan, findDetail?, Option.isSome_map, findSpan?, List.find?_isSome]
  simp

/-! ## Main statement -/

/-- The row and the panel that the view has for an id are those of one span. -/
structure FoundAs (v : TraceView) (id : String) (s : Span) (d : SpanDetail) (r : Row) : Prop where
  only : ∀ t ∈ v.spans, t.id = id → t = s
  place : ∃ row, v.spans[row]? = some s ∧ v.layout.rows[row]? = some r ∧ r.Shows row s
  row : v.layout.rowFor? id = some r
  /-- The panel is opened, and nothing but the selection changes. -/
  panel : v.selectSpan id = (some d, { v with selected := some id })
  detail : findDetail? v.spans id = some d
  describes : d.Describes s
  id_eq : d.spanId = r.node.id
  name_eq : d.items.head? = some ⟨"operation name", r.node.label⟩
  related_iff : d.relatedTraces.isSome ↔ r.node.parentId = none

/-- Searching the spans and searching the rows of the view for an id come to the same. -/
structure LookupsAgree (v : TraceView) (id : String) : Prop where
  panel_iff_row : (v.selectSpan id).1.isSome ↔ (v.layout.rowFor? id).isSome
  row_iff_span : (v.layout.rowFor? id).isSome ↔ ∃ s ∈ v.spans, s.id = id
  found : ∀ s ∈ v.spans, s.id = id → ∃ d r, v.FoundAs id s d r
  panel_eq : (v.selectSpan id).1 = findDetail? v.spans id
  missed : (v.selectSpan id).1 = none → (v.selectSpan id).2 = v

/-- A coherent view of accepted spans shows them laid out. -/
theorem Coherent.ofValid_eq_layout {v : TraceView} (h : v.Coherent)
    (hok : validate v.spans v.config.rootPolicy = .ok ()) :
    .ofValid v.spans v.theme v.config v.containerWidth = v.layout := by
  rw [h.layout, TraceLayout.computeOrError_of_ok hok]

theorem Coherent.exists_foundAs {v : TraceView} (h : v.Coherent)
    (hok : validate v.spans v.config.rootPolicy = .ok ()) {s : Span} (hs : s ∈ v.spans) :
    ∃ d r, v.FoundAs s.id s d r := by
  have hforest := validate_eq_ok_iff_isForest.mp hok
  have hl := h.ofValid_eq_layout hok
  have hspan := findSpan?_of_mem hforest hs
  obtain ⟨row, r, hrow, hr, hfound⟩ := TraceLayout.exists_rowFor?_eq hl hforest hs
  have hshows := TraceLayout.shows_of_getElem? hl hrow hr
  have hdescribes := SpanDetail.describes_ofSpan s
  refine ⟨.ofSpan s, r, ?_, ⟨row, hrow, hr, hshows⟩, hfound, ?_, ?_, hdescribes, ?_, ?_, ?_⟩
  · intro t ht hid
    exact List.inj_on_of_nodup_map hforest.distinct ht hs hid
  · simp only [selectSpan, hspan]
  · rw [findDetail?, hspan]
    rfl
  · rw [hdescribes.spanId, hshows.id]
  · rw [hshows.label]
    rfl
  · rw [hdescribes.related, hshows.parentId]

theorem Coherent.lookupsAgree {v : TraceView} (h : v.Coherent)
    (hok : validate v.spans v.config.rootPolicy = .ok ()) (id : String) : v.LookupsAgree id := by
  have hpanel := isSome_fst_selectSpan_iff v id
  have hrow := TraceLayout.isSome_rowFor?_iff (h.ofValid_eq_layout hok) id
  refine ⟨hpanel.trans hrow.symm, hrow, ?_, fst_selectSpan v id, snd_selectSpan_of_missed⟩
  rintro s hs rfl
  exact h.exists_foundAs hok hs

/-- **Row and panel of an id belong together.** After any run of changes that leaves a view with accepted
spans, a panel is opened for an id if and only if there is a row of that id, if and only if there is a
span of that id; the row and the panel are then those of this span. -/
theorem lookupsAgree_run (spans : List Span) (containerWidth : Float32) (theme : Theme)
    (config : LayoutConfig) (changes : List Change)
    (hok : validate ((ofSpans spans containerWidth theme config).run changes).spans config.rootPolicy =
      .ok ()) (id : String) :
    ((ofSpans spans containerWidth theme config).run changes).LookupsAgree id := by
  have hcoherent := (coherent_ofSpans spans containerWidth theme config).run changes
  obtain ⟨-, hconfig⟩ := settings_run (ofSpans spans containerWidth theme config) changes
  replace hconfig : ((ofSpans spans containerWidth theme config).run changes).config = config := hconfig
  exact hcoherent.lookupsAgree (hconfig.symm ▸ hok) id

/-- A view opened with refused spans, then shown other ones, with spans selected before and after. -/
theorem reopened_view_lookups_agree :
    validate ((ofSpans mutualCalls 800 .classic { rootPolicy := .reject }).run
      [.selectSpan "b", .selectTrace nestedCalls, .resize 20, .selectSpan "c"]).spans .reject = .ok () ∧
    ((ofSpans mutualCalls 800 .classic { rootPolicy := .reject }).run
      [.selectSpan "b", .selectTrace nestedCalls, .resize 20, .selectSpan "c"]).LookupsAgree "b" := by
  have hspans : ((ofSpans mutualCalls 800 .classic { rootPolicy := .reject }).run
      [.selectSpan "b", .selectTrace nestedCalls, .resize 20, .selectSpan "c"]).spans = nestedCalls :=
    spans_run _ _
  have hok := hspans.symm ▸ validate_nestedCalls
  exact ⟨hok, lookupsAgree_run mutualCalls 800 .classic { rootPolicy := .reject } _ hok "b"⟩

end TraceView

end Waterfall
