import Waterfall.Layout.Row

/-!
# Connectors

A connector leaves the lower left corner of the parent's bar and enters the middle of the left edge
of the child's bar. Where the child starts near the parent, going straight down would run along the
parent's bar; the connector then steps to the left first.
-/

namespace Waterfall

inductive Route where
  | direct
  | leftOffset
  deriving DecidableEq, Repr

def Route.name : Route → String
  | .direct => "direct"
  | .leftOffset => "left-offset"

structure Segment where
  start : Point
  stop : Point
  arrow : Bool

structure Connector where
  parentId : String
  childId : String
  route : Route
  segments : List Segment

namespace Connector

/-- The lower left corner of a bar. -/
def exitPoint (config : LayoutConfig) (parent : Point) : Point :=
  ⟨parent.x, parent.y + config.barHeight⟩

/-- The middle of the left edge of a bar. -/
def entryPoint (config : LayoutConfig) (child : Point) : Point :=
  ⟨child.x, child.y + config.barHeight / 2⟩

/-- Straight down and then to the child. -/
def directSegments (exit entry : Point) : List Segment :=
  [⟨exit, ⟨exit.x, entry.y⟩, false⟩, ⟨⟨exit.x, entry.y⟩, entry, true⟩]

/-- From an elbow to the left of the parent: the nudge back to the parent, down, and to the child. -/
def leftSegments (elbow exit entry : Point) : List Segment :=
  [⟨elbow, ⟨exit.x, elbow.y⟩, false⟩, ⟨elbow, ⟨elbow.x, entry.y⟩, false⟩,
   ⟨⟨elbow.x, entry.y⟩, entry, true⟩]

/-- The route between the bars with these anchors, and its segments. -/
def between (config : LayoutConfig) (parent child : Point) : Route × List Segment :=
  let exit := exitPoint config parent
  let entry := entryPoint config child
  if entry.x - exit.x < config.connectorThreshold then
    let elbow : Point := ⟨exit.x - config.doglegOffsetX, exit.y - config.doglegOffsetY⟩
    (.leftOffset, leftSegments elbow exit entry)
  else (.direct, directSegments exit entry)

/-! ## Polylines -/

/-- Goes on from the points passed so far, the last one first: a segment that starts where the last
one stopped adds only its end. -/
def continueFrom : List Point → List Segment → List Point
  | passed, [] => passed.reverse
  -- The first segment always gives both of its ends.
  | [], s :: rest => continueFrom [s.stop, s.start] rest
  | p :: passed, s :: rest =>
    if p == s.start then continueFrom (s.stop :: p :: passed) rest
    else continueFrom (s.stop :: s.start :: p :: passed) rest

/-- The points of a route in order. A route to the left starts with its nudge, which runs backwards;
without any segment it has no points to speak of. -/
def polyline? (route : Route) (segments : List Segment) : Option (List Point) :=
  match route, segments with
  | .direct, segments => some (continueFrom [] segments)
  | .leftOffset, nudge :: rest => some (nudge.stop :: nudge.start :: rest.map (·.stop))
  | .leftOffset, [] => none

/-- The connector as one line, from the parent to the arrowhead. -/
def points (c : Connector) : List Point := (polyline? c.route c.segments).getD []

/-- A computed route always has a polyline. -/
theorem polyline?_between_isSome (config : LayoutConfig) (parent child : Point) :
    (polyline? (between config parent child).1 (between config parent child).2).isSome = true := by
  simp only [between]
  by_cases h : (entryPoint config child).x - (exitPoint config parent).x < config.connectorThreshold <;>
    simp [h, polyline?, leftSegments]

end Connector

end Waterfall
