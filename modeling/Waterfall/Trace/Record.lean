import Waterfall.Trace.Scalar

/-!
# Span records

Spans as trace services write them: every field optional, ids and times as number or text, and the
parent given in up to three ways. The readers take them out of a JSON value.
-/

namespace Waterfall

/-! ## Plain values out of JSON -/

/-- What a JSON value is called in a complaint about its kind. -/
def Json.found : Json → Found
  | .null => .absent
  | .flag b => .flag b
  | .number (.whole n) => .whole n
  | .number (.double x) => .real x
  | .number (.single x) => .real (widen x)
  | .text s => .text s
  | .list _ => .sequence
  | .object _ => .record

/-- A way to read a value out of a JSON value. -/
abbrev JsonDecoder := Decoder Json Mismatch

namespace JsonDecoder

/-- The complaint about a value of another kind. -/
def wrong {α : Type} (expected : String) : JsonDecoder α :=
  fun v => .error (.wrongType v.found expected)

def text : JsonDecoder String
  | .text s => .ok s
  | v => wrong "a string" v

def flag : JsonDecoder Bool
  | .flag b => .ok b
  | v => wrong "a boolean" v

/-- A value or null. -/
def optional {α : Type} (read : JsonDecoder α) : JsonDecoder (Option α)
  | .null => .ok none
  | v => (read v).map some

def list {α : Type} (read : JsonDecoder α) : JsonDecoder (List α)
  | .list vs => do
    let items ← vs.mapM read
    return items
  | v => wrong "a sequence" v

/-- A record, as an object or as a list of its values. -/
def record {ts : List Type} (title : String) (fs : Fields JsonDecoder ts) : JsonDecoder (Values ts)
  | .object members => fs.ofMembers id .ok (fun _ => .ok ()) members
  | .list vs => do
    let (values, left) ← fs.ofItems id title fs.length 0 vs
    if left.isEmpty then return values
    else .error (.wrongLength vs.length "fewer elements in array")
  | v => wrong title v

/-- A field that may be left out or null. -/
def maybe {α : Type} (name : String) (read : JsonDecoder α) : Field JsonDecoder (Option α) :=
  { name, read := optional read, presence := .nullable none }

/-- A list that is empty when left out. -/
def listOf {α : Type} (name : String) (read : JsonDecoder α) : Field JsonDecoder (List α) :=
  { name, read := list read, presence := .defaulted [] }

end JsonDecoder

/-! ## Records -/

structure TagRecord where
  key : String
  value : Option Scalar

structure LogRecord where
  time : Option Scalar
  data : List TagRecord

structure ReferenceRecord where
  traceId : Option Scalar
  parentSegmentId : Option Scalar
  parentSpanId : Option Scalar
  kind : Option String

structure SpanRecord where
  id : Option Scalar
  parentId : Option Scalar
  spanId : Option Scalar
  segmentId : Option Scalar
  parentSpanId : Option Scalar
  startTime : Option Scalar
  endTime : Option Scalar
  operationName : Option String
  label : Option String
  applicationCode : Option String
  serviceCode : Option String
  actorId : Option String
  kind : Option String
  component : Option String
  peer : Option String
  layer : Option String
  isError : Option Bool
  tags : List TagRecord
  logs : List LogRecord
  refs : List ReferenceRecord

open JsonDecoder

def TagRecord.ofJson : JsonDecoder TagRecord := fun v => do
  let (key, value, ()) ← record "struct RawTag"
    (.cons { name := "key", read := text, presence := .required } <|
     .cons (maybe "value" Scalar.ofJson) .nil) v
  return { key, value }

def LogRecord.ofJson : JsonDecoder LogRecord := fun v => do
  let (time, data, ()) ← record "struct RawLog"
    (.cons (maybe "time" Scalar.ofJson) <|
     .cons (listOf "data" TagRecord.ofJson) .nil) v
  return { time, data }

def ReferenceRecord.ofJson : JsonDecoder ReferenceRecord := fun v => do
  let (traceId, parentSegmentId, parentSpanId, kind, ()) ← record "struct RawRef"
    (.cons (maybe "traceId" Scalar.ofJson) <|
     .cons (maybe "parentSegmentId" Scalar.ofJson) <|
     .cons (maybe "parentSpanId" Scalar.ofJson) <|
     .cons (maybe "type" text) .nil) v
  return { traceId, parentSegmentId, parentSpanId, kind }

/-- The fields of a span record, in the order of its list form. -/
def SpanRecord.fields : Fields JsonDecoder
    [Option Scalar, Option Scalar, Option Scalar, Option Scalar, Option Scalar, Option Scalar,
     Option Scalar, Option String, Option String, Option String, Option String, Option String,
     Option String, Option String, Option String, Option String, Option Bool, List TagRecord,
     List LogRecord, List ReferenceRecord] :=
  .cons (maybe "id" Scalar.ofJson) <|
  .cons (maybe "parentId" Scalar.ofJson) <|
  .cons (maybe "spanId" Scalar.ofJson) <|
  .cons (maybe "segmentId" Scalar.ofJson) <|
  .cons (maybe "parentSpanId" Scalar.ofJson) <|
  .cons (maybe "startTime" Scalar.ofJson) <|
  .cons (maybe "endTime" Scalar.ofJson) <|
  .cons (maybe "operationName" text) <|
  .cons (maybe "label" text) <|
  .cons (maybe "applicationCode" text) <|
  .cons (maybe "serviceCode" text) <|
  .cons (maybe "actorId" text) <|
  .cons (maybe "type" text) <|
  .cons (maybe "component" text) <|
  .cons (maybe "peer" text) <|
  .cons (maybe "layer" text) <|
  .cons (maybe "isError" flag) <|
  .cons (listOf "tags" TagRecord.ofJson) <|
  .cons (listOf "logs" LogRecord.ofJson) <|
  .cons (listOf "refs" ReferenceRecord.ofJson) .nil

def SpanRecord.ofJson : JsonDecoder SpanRecord := fun v => do
  let (id, parentId, spanId, segmentId, parentSpanId, startTime, endTime, operationName, label,
    applicationCode, serviceCode, actorId, kind, component, peer, layer, isError, tags, logs, refs,
    ()) ← record "struct RawSpan" fields v
  return {
    id, parentId, spanId, segmentId, parentSpanId, startTime, endTime, operationName, label,
    applicationCode, serviceCode, actorId, kind, component, peer, layer, isError, tags, logs, refs }

end Waterfall
