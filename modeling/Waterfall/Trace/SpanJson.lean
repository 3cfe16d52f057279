import Waterfall.Json.Printer
import Waterfall.Json.Typed
import Waterfall.Trace.Error
import Waterfall.Trace.Span

/-!
# Resolved spans as JSON

The JSON form of spans that are resolved already: `toJson` writes every field in order, absent ones
as null, and `ofText` reads a span straight from text.
-/

namespace Waterfall

/-! ## Writing -/

def Tag.toJson (t : Tag) : Json := .object [("key", .text t.key), ("value", .text t.value)]

def LogEntry.toJson (l : LogEntry) : Json := .object [
  ("time", .whole l.time), ("data", .list (l.data.map Tag.toJson))]

def Reference.toJson (r : Reference) : Json := .object [
  ("trace_id", .optional .text r.traceId),
  ("parent_segment_id", .optional .text r.parentSegmentId),
  ("parent_span_id", .optional .text r.parentSpanId),
  ("kind", .optional .text r.kind)]

def Span.toJson (s : Span) : Json := .object [
  ("id", .text s.id),
  ("parent_id", .optional .text s.parentId),
  ("start_time", .whole s.startTime),
  ("end_time", .whole s.endTime),
  ("label", .text s.label),
  ("actor", .text s.actor),
  ("kind", .text s.kind.name),
  ("component", .optional .text s.component),
  ("peer", .optional .text s.peer),
  ("layer", .optional .text s.layer),
  ("is_error", .flag s.isError),
  ("tags", .list (s.tags.map Tag.toJson)),
  ("logs", .list (s.logs.map LogEntry.toJson)),
  ("refs", .list (s.refs.map Reference.toJson))]

/-! ## Reading -/

namespace Json

/-- A field that has to be given. -/
def needed {α : Type} (name : String) (read : Reader α) : Field Reader α :=
  { name, read, presence := .required }

/-- A field that may be left out or null. -/
def maybe {α : Type} (name : String) (read : Reader α) : Field Reader (Option α) :=
  { name, read := readOptional read, presence := .nullable none }

end Json

open Json

/-- The kinds by their names. -/
def SpanKind.known : List (String × SpanKind) := SpanKind.all.map fun k => (k.name, k)

def SpanKind.reader : Reader SpanKind := readVariant known

def Tag.reader : Reader Tag := do
  let (key, value, ()) ← readRecord "struct SpanTag"
    (.cons (needed "key" readText) <|
     .cons (needed "value" readText) .nil)
  return { key, value }

def LogEntry.reader : Reader LogEntry := do
  let (time, data, ()) ← readRecord "struct SpanLog"
    (.cons (needed "time" readSigned) <|
     .cons (needed "data" (readList Tag.reader)) .nil)
  return { time, data }

def Reference.reader : Reader Reference := do
  let (traceId, parentSegmentId, parentSpanId, kind, ()) ← readRecord "struct SpanRef"
    (.cons (maybe "trace_id" readText) <|
     .cons (maybe "parent_segment_id" readText) <|
     .cons (maybe "parent_span_id" readText) <|
     .cons (maybe "kind" readText) .nil)
  return { traceId, parentSegmentId, parentSpanId, kind }

def Span.reader : Reader Span := do
  let (id, parentId, startTime, endTime, label, actor, kind, component, peer, layer, isError, tags,
    logs, refs, ()) ← readRecord "struct Span"
      (.cons (needed "id" readText) <|
       .cons (maybe "parent_id" readText) <|
       .cons (needed "start_time" readSigned) <|
       .cons (needed "end_time" readSigned) <|
       .cons (needed "label" readText) <|
       .cons (needed "actor" readText) <|
       .cons (needed "kind" SpanKind.reader) <|
       .cons (maybe "component" readText) <|
       .cons (maybe "peer" readText) <|
       .cons (maybe "layer" readText) <|
       .cons (needed "is_error" readFlag) <|
       .cons (needed "tags" (readList Tag.reader)) <|
       .cons (needed "logs" (readList LogEntry.reader)) <|
       .cons (needed "refs" (readList Reference.reader)) .nil)
  return {
    id, parentId, startTime, endTime, label, actor, kind, component, peer, layer, isError, tags, logs,
    refs }

/-- Reads a value from a whole text. -/
def readTextAs {α : Type} (reader : Reader α) (input : String) : Except TraceError α :=
  (readAll reader input.toList).mapError (.ofFailure input.toList)

/-- The span written in a text. -/
def Span.ofText (input : String) : Except TraceError Span := readTextAs Span.reader input

end Waterfall
