import Waterfall.View

/-!
# Views that stay up to date

A view stores the layout that it computed last, so it could show one that belongs to other spans or to
another width. This module follows a view through any run of changes (`TraceView.run`), of which a resize
and a selection may be refused.

What one change does is said once, by `resize_cases` and `selectSpan_cases`. `Coherent` is kept by every
change, hence by every run; where a run leads is read off the changes that took place. So up to its
selection a view is the one that would be opened now.
-/

namespace Waterfall

namespace TraceView

/-! ## Changes and runs -/

/-- What a host can do to a view. -/
inductive Change where
  | resize (containerWidth : Float32)
  | selectTrace (spans : List Span)
  | selectSpan (id : String)
  | clearSelection

/-- The view after a change. -/
def changed (v : TraceView) : Change → TraceView
  | .resize w => (v.resize w).2
  | .selectTrace spans => v.selectTrace spans
  | .selectSpan id => (v.selectSpan id).2
  | .clearSelection => v.clearSelection

/-- The view after some changes, one after the other. -/
def run (v : TraceView) (changes : List Change) : TraceView := changes.foldl changed v

/-- The trace that a change shows. -/
def Change.trace? : Change → Option (List Span)
  | .selectTrace spans => some spans
  | _ => none

/-- The width of a resize that the view says took place. -/
def widthTaken? (v : TraceView) : Change → Option Float32
  | .resize w => if (v.resize w).1 then some w else none
  | _ => none

/-- The widths of the resizes that took place in a run. -/
def widthsTaken : TraceView → List Change → List Float32
  | _, [] => []
  | v, c :: rest => (v.widthTaken? c).toList ++ widthsTaken (v.changed c) rest

/-- The trace shown last in a run, or the one at its start. -/
def lastTrace (v : TraceView) (changes : List Change) : List Span :=
  (changes.filterMap Change.trace?).getLast?.getD v.spans

/-- The width of the last resize that took place in a run, or the one at its start. -/
def lastWidth (v : TraceView) (changes : List Change) : Float32 :=
  (v.widthsTaken changes).getLast?.getD v.containerWidth

theorem run_cons (v : TraceView) (c : Change) (rest : List Change) :
    v.run (c :: rest) = (v.changed c).run rest := rfl

/-! ## What one change does -/

theorem resize_cases (v : TraceView) (w : Float32) :
    v.resize w = (false, v) ∨ v.resize w = (true, refreshed { v with containerWidth := w }) := by
  unfold resize
  split
  · exact .inl rfl
  · exact .inr rfl

theorem selectSpan_cases (v : TraceView) (id : String) :
    v.selectSpan id = (none, v) ∨
      ∃ s ∈ v.spans, s.id = id ∧ v.selectSpan id = (some (.ofSpan s), { v with selected := some id }) := by
  unfold selectSpan
  cases hfind : findSpan? v.spans id with
  | none => exact .inl rfl
  | some s =>
    have hmem : s ∈ v.spans := List.mem_of_find?_eq_some hfind
    have hid : s.id = id := by simpa using List.find?_some hfind
    refine .inr ⟨s, hmem, hid, ?_⟩
    simp only [hid]

theorem snd_selectSpan_of_missed {v : TraceView} {id : String} (h : (v.selectSpan id).1 = none) :
    (v.selectSpan id).2 = v := by
  rcases selectSpan_cases v id with hcase | ⟨s, -, -, hcase⟩
  · rw [hcase]
  · simp [hcase] at h

/-- Theme and measures are those the view was opened with. -/
theorem settings_changed (v : TraceView) (c : Change) :
    (v.changed c).theme = v.theme ∧ (v.changed c).config = v.config := by
  cases c with
  | resize w =>
    rcases resize_cases v w with hcase | hcase <;> simp [changed, hcase, refreshed]
  | selectTrace spans => exact ⟨rfl, rfl⟩
  | selectSpan id =>
    rcases selectSpan_cases v id with hcase | ⟨s, -, -, hcase⟩ <;> simp [changed, hcase]
  | clearSelection => exact ⟨rfl, rfl⟩

theorem spans_changed (v : TraceView) (c : Change) :
    (v.changed c).spans = c.trace?.getD v.spans := by
  cases c with
  | resize w =>
    rcases resize_cases v w with hcase | hcase <;> simp [changed, hcase, refreshed, Change.trace?]
  | selectTrace spans => rfl
  | selectSpan id =>
    rcases selectSpan_cases v id with hcase | ⟨s, -, -, hcase⟩ <;> simp [changed, hcase, Change.trace?]
  | clearSelection => rfl

theorem containerWidth_changed (v : TraceView) (c : Change) :
    (v.changed c).containerWidth = (v.widthTaken? c).getD v.containerWidth := by
  cases c with
  | resize w =>
    rcases resize_cases v w with hcase | hcase <;> simp [changed, hcase, refreshed, widthTaken?]
  | selectTrace spans => rfl
  | selectSpan id =>
    rcases selectSpan_cases v id with hcase | ⟨s, -, -, hcase⟩ <;> simp [changed, hcase, widthTaken?]
  | clearSelection => rfl

/-! ## The invariant -/

/-- The stored layout is that of the spans and the width the view has now, and what is selected is one
of these spans. -/
structure Coherent (v : TraceView) : Prop where
  layout : v.layout = .computeOrError v.spans v.theme v.config v.containerWidth
  selected : ∀ id, v.selected = some id → ∃ s ∈ v.spans, s.id = id

theorem coherent_ofSpans (spans : List Span) (containerWidth : Float32) (theme : Theme)
    (config : LayoutConfig) : (ofSpans spans containerWidth theme config).Coherent where
  layout := rfl
  selected := by
    intro id hid
    cases hid

theorem Coherent.changed {v : TraceView} (h : v.Coherent) (c : Change) : (v.changed c).Coherent := by
  cases c with
  | resize w =>
    show (v.resize w).2.Coherent
    rcases resize_cases v w with hcase | hcase <;> rw [hcase]
    · exact h
    · exact ⟨rfl, h.selected⟩
  | selectTrace spans =>
    refine ⟨rfl, ?_⟩
    intro id hid
    cases hid
  | selectSpan id =>
    show (v.selectSpan id).2.Coherent
    rcases selectSpan_cases v id with hcase | ⟨s, hs, hid, hcase⟩ <;> rw [hcase]
    · exact h
    · refine ⟨h.layout, ?_⟩
      intro id' hid'
      obtain rfl := Option.some.inj hid'
      exact ⟨s, hs, hid⟩
  | clearSelection =>
    refine ⟨h.layout, ?_⟩
    intro id hid
    cases hid

/-- Up to its selection a coherent view is one opened now. -/
theorem Coherent.clearSelection_eq {v : TraceView} (h : v.Coherent) :
    v.clearSelection = ofSpans v.spans v.containerWidth v.theme v.config := by
  unfold clearSelection ofSpans
  rw [← h.layout]

/-! ## What a run does -/

theorem Coherent.run {v : TraceView} (h : v.Coherent) (changes : List Change) :
    (v.run changes).Coherent := by
  induction changes generalizing v with
  | nil => exact h
  | cons c rest ih =>
    rw [run_cons]
    exact ih (h.changed c)

theorem settings_run (v : TraceView) (changes : List Change) :
    (v.run changes).theme = v.theme ∧ (v.run changes).config = v.config := by
  induction changes generalizing v with
  | nil => exact ⟨rfl, rfl⟩
  | cons c rest ih =>
    obtain ⟨htheme, hconfig⟩ := settings_changed v c
    rw [run_cons, ← htheme, ← hconfig]
    exact ih (v.changed c)

/-- The last of some items, the first of which may be missing. -/
theorem getD_getLast?_toList_append {α : Type} (first : Option α) (rest : List α) (default : α) :
    (first.toList ++ rest).getLast?.getD default = rest.getLast?.getD (first.getD default) := by
  rw [List.getLast?_append]
  cases first <;> cases rest.getLast? <;> rfl

theorem spans_run (v : TraceView) (changes : List Change) :
    (v.run changes).spans = v.lastTrace changes := by
  induction changes generalizing v with
  | nil => rfl
  | cons c rest ih =>
    have hshown : (c :: rest).filterMap Change.trace? =
        c.trace?.toList ++ rest.filterMap Change.trace? := by
      cases htrace : c.trace? <;> simp [htrace]
    rw [run_cons, ih, lastTrace, lastTrace, spans_changed, hshown, getD_getLast?_toList_append]

theorem containerWidth_run (v : TraceView) (changes : List Change) :
    (v.run changes).containerWidth = v.lastWidth changes := by
  induction changes generalizing v with
  | nil => rfl
  | cons c rest ih =>
    rw [run_cons, ih, lastWidth, lastWidth, containerWidth_changed, widthsTaken,
      getD_getLast?_toList_append]

/-! ## Main statement -/

/-- The view is up to date with these spans and this width, and a change that it refuses leaves it as it
is. -/
structure UpToDate (v : TraceView) (spans : List Span) (containerWidth : Float32) (theme : Theme)
    (config : LayoutConfig) : Prop where
  layout_eq : v.layout = .computeOrError spans theme config containerWidth
  spans_eq : v.spans = spans
  width_eq : v.containerWidth = containerWidth
  theme_eq : v.theme = theme
  config_eq : v.config = config
  selected : ∀ id, v.selected = some id → ∃ s ∈ spans, s.id = id
  /-- Nothing but the selection tells it from a view opened now. -/
  fresh : v.clearSelection = ofSpans spans containerWidth theme config
  svg : v.svg = (ofSpans spans containerWidth theme config).svg
  refused : ∀ w, (v.resize w).1 = false → (v.resize w).2 = v
  missed : ∀ id, (v.selectSpan id).1 = none → (v.selectSpan id).2 = v

/-- **A view never shows an old layout.** After any run of changes it has the spans of the last trace
shown and the width of the last resize that took place, and it looks like a view opened with them. -/
theorem upToDate_run (spans : List Span) (containerWidth : Float32) (theme : Theme)
    (config : LayoutConfig) (changes : List Change) :
    ((ofSpans spans containerWidth theme config).run changes).UpToDate
      ((ofSpans spans containerWidth theme config).lastTrace changes)
      ((ofSpans spans containerWidth theme config).lastWidth changes) theme config := by
  have hcoherent := (coherent_ofSpans spans containerWidth theme config).run changes
  obtain ⟨htheme, hconfig⟩ := settings_run (ofSpans spans containerWidth theme config) changes
  rw [← spans_run, ← containerWidth_run]
  generalize (ofSpans spans containerWidth theme config).run changes = reached at *
  obtain rfl : reached.theme = theme := htheme
  obtain rfl : reached.config = config := hconfig
  have hfresh := hcoherent.clearSelection_eq
  refine ⟨hcoherent.layout, rfl, rfl, rfl, rfl, hcoherent.selected, hfresh, ?_,
    fun w => snd_resize_of_refused, fun id => snd_selectSpan_of_missed⟩
  rw [← hfresh]
  rfl

end TraceView

end Waterfall
