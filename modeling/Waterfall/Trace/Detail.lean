import Waterfall.Json.Printer
import Waterfall.Trace.Span
import Waterfall.Trace.Timestamp

/-!
# Span details

What the detail panel of a span shows: a list of titled items, a tab for each log entry, and for
roots the traces that their references lead to.
-/

namespace Waterfall

structure DetailItem where
  title : String
  content : String
  deriving DecidableEq, Repr

structure LogTab where
  label : String
  time : Int
  items : List DetailItem
  deriving DecidableEq, Repr

structure RelatedTrace where
  kind : String
  traceId : String
  deriving DecidableEq, Repr

structure SpanDetail where
  spanId : String
  items : List DetailItem
  logs : List LogTab
  /-- Present for roots only. -/
  relatedTraces : Option (List RelatedTrace)
  deriving DecidableEq, Repr

namespace DetailItem

def ofTag (t : Tag) : DetailItem := ⟨t.key, t.value⟩

def toJson (i : DetailItem) : Json := .object [("title", .text i.title), ("content", .text i.content)]

end DetailItem

def LogTab.ofEntry (l : LogEntry) : LogTab := ⟨formatMinute l.time, l.time, l.data.map .ofTag⟩

def LogTab.toJson (l : LogTab) : Json := .object [
  ("label", .text l.label), ("time", .whole l.time), ("items", .list (l.items.map DetailItem.toJson))]

def RelatedTrace.ofReference (r : Reference) : RelatedTrace := ⟨r.kind.getD "", r.traceId.getD ""⟩

def RelatedTrace.toJson (r : RelatedTrace) : Json := .object [
  ("kind", .text r.kind), ("trace_id", .text r.traceId)]

namespace SpanDetail

/-- The items that every span has. -/
def fixedItems (s : Span) : List DetailItem := [
  ⟨"operation name", s.label⟩,
  ⟨"duration", formatTimestamp s.startTime ++ " - " ++ formatTimestamp s.endTime⟩,
  ⟨"span type", s.kind.name⟩,
  ⟨"component", s.component.getD ""⟩,
  ⟨"peer", s.peer.getD ""⟩,
  ⟨"is error", if s.isError then "true" else "false"⟩]

/-- The panel of a span. -/
def ofSpan (s : Span) : SpanDetail where
  spanId := s.id
  items := fixedItems s ++ (s.layer.map fun l => ⟨"layer", l⟩).toList ++ s.tags.map .ofTag
  logs := s.logs.map .ofEntry
  relatedTraces := if s.isRoot then some (s.refs.map .ofReference) else none

def toJson (d : SpanDetail) : Json := .object [
  ("span_id", .text d.spanId),
  ("items", .list (d.items.map DetailItem.toJson)),
  ("logs", .list (d.logs.map LogTab.toJson)),
  ("related_traces", .optional (fun rs => .list (rs.map RelatedTrace.toJson)) d.relatedTraces)]

end SpanDetail

/-- The first span with the given id. -/
def findSpan? (spans : List Span) (id : String) : Option Span := spans.find? (·.id == id)

/-- The panel of the first span with the given id. -/
def findDetail? (spans : List Span) (id : String) : Option SpanDetail :=
  (findSpan? spans id).map .ofSpan

end Waterfall
