import Waterfall.Trace.Error
import Waterfall.Trace.Record
import Waterfall.Trace.Span

/-!
# From records to spans

A span has its own id or the id of its place in a segment. Its parent is, in this order: the target
of the first reference that names a span of the trace, the explicit parent whatever it names, or the
span of the same segment that is given as parent, if it is in the trace. `resolve` first needs an id
for every record and then two times for every record, in order.
-/

namespace Waterfall

/-- The id of a span given by its number in a segment. -/
def segmentSpanId (segment : Option Scalar) (span : Scalar) : String :=
  match segment with
  | some segment => segment.toText ++ "," ++ span.toText
  | none => span.toText

namespace TagRecord

def toTag (t : TagRecord) : Tag := ⟨t.key, (t.value.map Scalar.toText).getD ""⟩

end TagRecord

namespace LogRecord

/-- A log entry; a time that cannot be read counts as zero. -/
def toEntry (l : LogRecord) : LogEntry :=
  ⟨(l.time.bind Scalar.toMillis?).getD 0, l.data.map TagRecord.toTag⟩

end LogRecord

namespace ReferenceRecord

def toReference (r : ReferenceRecord) : Reference :=
  { traceId := r.traceId.map Scalar.toText
    parentSegmentId := r.parentSegmentId.map Scalar.toText
    parentSpanId := r.parentSpanId.map Scalar.toText
    kind := r.kind }

/-- The id of the span that a reference points to, if it names one. -/
def target? (r : ReferenceRecord) : Option String :=
  r.parentSpanId.map (segmentSpanId r.parentSegmentId)

end ReferenceRecord

namespace SpanRecord

/-- The id of the span: its own, or that of its place in the segment. -/
def ownId? (r : SpanRecord) : Option String :=
  match r.id with
  | some id => some id.toText
  | none => r.spanId.map (segmentSpanId r.segmentId)

/-- The parent, among the ids of the trace. -/
def parent? (known : List String) (r : SpanRecord) : Option String :=
  match (r.refs.filterMap ReferenceRecord.target?).find? (known.contains ·) with
  | some target => some target
  | none =>
    match r.parentId with
    -- Kept even if no span has that id: a parent that does not exist is a defect to report.
    | some parent => some parent.toText
    | none =>
      match r.parentSpanId.map (segmentSpanId r.segmentId) with
      -- A number in the same segment is a guess, and counts only if it is right.
      | some candidate => if known.contains candidate then some candidate else none
      | none => none

/-- The span of a record at the given place of the document, once its id is known. -/
def toSpan (known : List String) (index : Nat) (r : SpanRecord) (id : String) :
    Except TraceError Span :=
  match r.startTime.bind Scalar.toMillis? with
  | none => .error (.missingField index .startTime)
  | some startTime =>
    match r.endTime.bind Scalar.toMillis? with
    | none => .error (.missingField index .endTime)
    | some endTime =>
      .ok {
        id
        parentId := r.parent? known
        startTime
        endTime
        label := (r.operationName <|> r.label).getD ""
        actor := (r.applicationCode <|> r.serviceCode <|> r.actorId).getD ""
        kind := (r.kind.bind SpanKind.ofToken?).getD .internal
        component := r.component
        peer := r.peer
        layer := r.layer
        isError := r.isError.getD false
        tags := r.tags.map TagRecord.toTag
        logs := r.logs.map LogRecord.toEntry
        refs := r.refs.map ReferenceRecord.toReference }

/-- The ids of all records, or the first record without one. -/
def ownIds : Nat → List SpanRecord → Except TraceError (List String)
  | _, [] => .ok []
  | index, r :: rs =>
    match r.ownId? with
    | none => .error (.missingField index .spanId)
    | some id => (ownIds (index + 1) rs).map (id :: ·)

/-- The spans of all records, in order, or the first record without a readable time. -/
def toSpans (known : List String) : Nat → List (SpanRecord × String) → Except TraceError (List Span)
  | _, [] => .ok []
  | index, (r, id) :: rest =>
    match r.toSpan known index id with
    | .error e => .error e
    | .ok span => (toSpans known (index + 1) rest).map (span :: ·)

/-- The spans of a document. -/
def resolve (records : List SpanRecord) : Except TraceError (List Span) :=
  match ownIds 0 records with
  | .error e => .error e
  | .ok ids => toSpans ids 0 (records.zip ids)

/-- There are as many ids as records. -/
theorem length_ownIds {index : Nat} {records : List SpanRecord} {ids : List String}
    (h : ownIds index records = .ok ids) : ids.length = records.length := by
  induction records generalizing index ids with
  | nil => simp [ownIds] at h; simp [← h]
  | cons r rs ih =>
    simp only [ownIds] at h
    split at h
    · simp at h
    · cases hrs : ownIds (index + 1) rs with
      | error e => simp [hrs, Except.map] at h
      | ok tail =>
        simp [hrs, Except.map] at h
        simp [← h, ih hrs]

end SpanRecord

end Waterfall
