import Waterfall.Layout.Colors
import Waterfall.Trace.Span

/-!
# Nodes

A node is a span measured from the start of its trace: how long it takes, how long after the
earliest span it starts, and the colour of its actor. Durations and offsets that leave the range of
times stop at its end.
-/

namespace Waterfall

structure Node where
  id : String
  parentId : Option String
  index : Nat
  startTime : Int
  endTime : Int
  duration : Int
  startOffset : Int
  label : String
  actor : String
  color : String
  isError : Bool
  deriving DecidableEq, Repr

/-- Lists that agree place by place, under what is read off their members. -/
theorem map_eq_map_of_getElem? {α β γ : Type} {xs : List α} {ys : List β} {f : β → γ} {g : α → γ}
    (hlength : ys.length = xs.length)
    (h : ∀ (i : Nat) x, xs[i]? = some x → ∃ y, ys[i]? = some y ∧ f y = g x) : ys.map f = xs.map g := by
  apply List.ext_getElem?
  intro i
  rw [List.getElem?_map, List.getElem?_map]
  cases hx : xs[i]? with
  | none =>
    have hy : ys[i]? = none := by
      rw [List.getElem?_eq_none_iff, hlength]
      exact List.getElem?_eq_none_iff.mp hx
    rw [hy]
    rfl
  | some x =>
    obtain ⟨y, hy, hread⟩ := h i x hx
    rw [hy, Option.map_some, Option.map_some, hread]

namespace Node

/-- The start of the earliest span. -/
def earliestStart (spans : List Span) : Int :=
  ((spans.map (·.startTime)).min?).getD 0

def ofSpan (origin : Int) (index : Nat) (color : String) (s : Span) : Node where
  id := s.id
  parentId := s.parentId
  index
  startTime := s.startTime
  endTime := s.endTime
  duration := Time.clamp (s.endTime - s.startTime)
  startOffset := Time.clamp (s.startTime - origin)
  label := s.label
  actor := s.actor
  color
  isError := s.isError

/-- The nodes from the given row on, and the colours after them. -/
def ofSpansFrom (palette : List String) (origin : Int) :
    Nat → ActorColors → List Span → List Node × ActorColors
  | _, colors, [] => ([], colors)
  | index, colors, s :: rest =>
    let colors := colors.assign palette s.actor
    let node := ofSpan origin index ((colors.colorOf? s.actor).getD "") s
    let (nodes, colors) := ofSpansFrom palette origin (index + 1) colors rest
    (node :: nodes, colors)

/-- One node for each span, in order, and the colours of the actors. -/
def ofSpans (spans : List Span) (palette : List String) : List Node × ActorColors :=
  ofSpansFrom palette (earliestStart spans) 0 {} spans

/-- The end of a node, measured from the start of the trace. -/
def endOffset (n : Node) : Int := Time.clamp (n.startOffset + n.duration)

theorem length_ofSpansFrom (palette : List String) (origin : Int) (index : Nat)
    (colors : ActorColors) (spans : List Span) :
    (ofSpansFrom palette origin index colors spans).1.length = spans.length := by
  induction spans generalizing index colors with
  | nil => rfl
  | cons s rest ih => simp [ofSpansFrom, ih]

/-- There are as many nodes as spans. -/
theorem length_ofSpans (spans : List Span) (palette : List String) :
    (ofSpans spans palette).1.length = spans.length :=
  length_ofSpansFrom ..

/-- The nodes stand in the order of their spans, each with the index of its row. -/
theorem getElem?_ofSpansFrom (palette : List String) (origin : Int) (index : Nat)
    (colors : ActorColors) {spans : List Span} {row : Nat} {s : Span} (hs : spans[row]? = some s) :
    ∃ color, (ofSpansFrom palette origin index colors spans).1[row]? =
      some (ofSpan origin (index + row) color s) := by
  induction spans generalizing index colors row with
  | nil => simp at hs
  | cons first rest ih =>
    cases row with
    | zero =>
      obtain rfl : first = s := by simpa using hs
      exact ⟨_, rfl⟩
    | succ row =>
      obtain ⟨color, h⟩ := ih (index + 1) (colors.assign palette first.actor) (by simpa using hs)
      refine ⟨color, ?_⟩
      rw [show index + (row + 1) = index + 1 + row by omega]
      simpa [ofSpansFrom] using h

theorem getElem?_ofSpans (palette : List String) {spans : List Span} {row : Nat} {s : Span}
    (hs : spans[row]? = some s) :
    ∃ color, (ofSpans spans palette).1[row]? =
      some (ofSpan (earliestStart spans) row color s) := by
  have h := getElem?_ofSpansFrom palette (earliestStart spans) 0 {} hs
  simpa [ofSpans] using h

/-- What a node takes over from its span alone reads the same from the nodes and from the spans. -/
theorem map_ofSpans {β : Type} {f : Node → β} {g : Span → β}
    (h : ∀ origin index color s, f (ofSpan origin index color s) = g s) (spans : List Span)
    (palette : List String) : (ofSpans spans palette).1.map f = spans.map g := by
  apply map_eq_map_of_getElem? (length_ofSpans spans palette)
  intro row s hs
  obtain ⟨color, hn⟩ := getElem?_ofSpans palette hs
  exact ⟨_, hn, h ..⟩

/-- The colours are those of the actors in order. -/
theorem ofSpansFrom_snd (palette : List String) (origin : Int) (index : Nat)
    (colors : ActorColors) (spans : List Span) :
    (ofSpansFrom palette origin index colors spans).2 =
      colors.assignAll palette (spans.map (·.actor)) := by
  induction spans generalizing index colors with
  | nil => rfl
  | cons s rest ih => simp [ofSpansFrom, ih, ActorColors.assignAll]

end Node

end Waterfall
