import Mathlib.Data.List.Forall2
import Waterfall.Trace.Resolve

/-!
# Records that no one tells apart

An id or a time can be written in more than one way. Two scalars are alike when they have the same text and
tell the same time, and from there on up two records are alike when the trace that comes out is the same:
tags, log entries and references by what they turn into, span records by their ids and by the span that
each gives in any place of any trace.

Records that are alike one by one resolve to the same spans or to the same complaint
(`SpanRecord.resolve_eq_of_alike`).
-/

namespace Waterfall

/-! ## Scalars -/

/-- Both have the same text and tell the same time, if any. -/
def Scalar.Alike (x y : Scalar) : Prop := x.toText = y.toText ∧ x.toMillis? = y.toMillis?

theorem Scalar.alike_refl (x : Option Scalar) : Option.Rel Scalar.Alike x x := by
  cases x with
  | none => exact .none
  | some x => exact .some ⟨rfl, rfl⟩

section Optional

variable {x y : Option Scalar}

theorem map_toText_of_alike (h : Option.Rel Scalar.Alike x y) :
    x.map Scalar.toText = y.map Scalar.toText := by
  cases h with
  | none => rfl
  | some hxy => exact congrArg some hxy.1

theorem bind_toMillis?_of_alike (h : Option.Rel Scalar.Alike x y) :
    x.bind Scalar.toMillis? = y.bind Scalar.toMillis? := by
  cases h with
  | none => rfl
  | some hxy => exact hxy.2

theorem segmentSpanId_of_alike {segment segment' : Option Scalar}
    (hsegment : Option.Rel Scalar.Alike segment segment') (h : Option.Rel Scalar.Alike x y) :
    x.map (segmentSpanId segment) = y.map (segmentSpanId segment') := by
  cases h with
  | none => rfl
  | some hxy =>
    cases hsegment with
    | none => simp only [Option.map_some, segmentSpanId, hxy.1]
    | some hseg => simp only [Option.map_some, segmentSpanId, hxy.1, hseg.1]

end Optional

/-- Items that are turned into the same, one by one. -/
theorem map_eq_map_of_forall₂ {α β : Type} {f : α → β} {xs ys : List α}
    (h : List.Forall₂ (fun a b => f a = f b) xs ys) : xs.map f = ys.map f := by
  induction h with
  | nil => rfl
  | cons hab _ ih => rw [List.map_cons, List.map_cons, hab, ih]

/-! ## Tags, log entries and references -/

def TagRecord.Alike (t u : TagRecord) : Prop := t.toTag = u.toTag

instance : Std.Refl TagRecord.Alike := ⟨fun _ => rfl⟩

theorem TagRecord.alike_of_fields {t u : TagRecord} (hkey : t.key = u.key)
    (hvalue : Option.Rel Scalar.Alike t.value u.value) : t.Alike u := by
  unfold TagRecord.Alike toTag
  rw [hkey, map_toText_of_alike hvalue]

def LogRecord.Alike (l m : LogRecord) : Prop := l.toEntry = m.toEntry

instance : Std.Refl LogRecord.Alike := ⟨fun _ => rfl⟩

theorem LogRecord.alike_of_fields {l m : LogRecord} (htime : Option.Rel Scalar.Alike l.time m.time)
    (hdata : List.Forall₂ TagRecord.Alike l.data m.data) : l.Alike m := by
  unfold LogRecord.Alike toEntry
  rw [bind_toMillis?_of_alike htime, map_eq_map_of_forall₂ hdata]

def ReferenceRecord.Alike (r s : ReferenceRecord) : Prop :=
  r.toReference = s.toReference ∧ r.target? = s.target?

instance : Std.Refl ReferenceRecord.Alike := ⟨fun _ => ⟨rfl, rfl⟩⟩

theorem ReferenceRecord.alike_of_fields {r s : ReferenceRecord}
    (htrace : Option.Rel Scalar.Alike r.traceId s.traceId)
    (hsegment : Option.Rel Scalar.Alike r.parentSegmentId s.parentSegmentId)
    (hspan : Option.Rel Scalar.Alike r.parentSpanId s.parentSpanId) (hkind : r.kind = s.kind) :
    r.Alike s := by
  constructor
  · unfold toReference
    rw [map_toText_of_alike htrace, map_toText_of_alike hsegment, map_toText_of_alike hspan, hkind]
  · exact segmentSpanId_of_alike hsegment hspan

/-! ## Spans -/

namespace SpanRecord

/-- Both have the same id, and in the same place of any trace both give the same span. -/
structure Alike (r s : SpanRecord) : Prop where
  ownId? : r.ownId? = s.ownId?
  toSpan : ∀ known index id, r.toSpan known index id = s.toSpan known index id

instance : Std.Refl SpanRecord.Alike := ⟨fun _ => ⟨rfl, fun _ _ _ => rfl⟩⟩

/-- The fields that hold scalars are alike, and all others are the same as far as they are used. -/
structure FieldsAlike (r s : SpanRecord) : Prop where
  id : Option.Rel Scalar.Alike r.id s.id
  parentId : Option.Rel Scalar.Alike r.parentId s.parentId
  spanId : Option.Rel Scalar.Alike r.spanId s.spanId
  segmentId : Option.Rel Scalar.Alike r.segmentId s.segmentId
  parentSpanId : Option.Rel Scalar.Alike r.parentSpanId s.parentSpanId
  startTime : Option.Rel Scalar.Alike r.startTime s.startTime
  endTime : Option.Rel Scalar.Alike r.endTime s.endTime
  operationName : r.operationName = s.operationName
  label : r.label = s.label
  applicationCode : r.applicationCode = s.applicationCode
  serviceCode : r.serviceCode = s.serviceCode
  actorId : r.actorId = s.actorId
  kind : r.kind = s.kind
  component : r.component = s.component
  peer : r.peer = s.peer
  layer : r.layer = s.layer
  isError : r.isError = s.isError
  tags : List.Forall₂ TagRecord.Alike r.tags s.tags
  logs : List.Forall₂ LogRecord.Alike r.logs s.logs
  refs : List.Forall₂ ReferenceRecord.Alike r.refs s.refs

variable {r s : SpanRecord}

theorem FieldsAlike.ownId? (h : r.FieldsAlike s) : r.ownId? = s.ownId? := by
  have hplace := segmentSpanId_of_alike h.segmentId h.spanId
  have hid := h.id
  unfold SpanRecord.ownId?
  generalize r.id = x at hid
  generalize s.id = y at hid
  cases hid with
  | none => exact hplace
  | some hxy => exact congrArg some hxy.1

theorem FieldsAlike.parent? (h : r.FieldsAlike s) (known : List String) :
    r.parent? known = s.parent? known := by
  have htargets : r.refs.filterMap ReferenceRecord.target? = s.refs.filterMap ReferenceRecord.target? := by
    have hmap := congrArg (List.filterMap fun target => target)
      (map_eq_map_of_forall₂ (h.refs.imp fun _ _ h => h.2))
    rw [List.filterMap_map, List.filterMap_map] at hmap
    exact hmap
  have hparent := h.parentId
  unfold SpanRecord.parent?
  rw [htargets, segmentSpanId_of_alike h.segmentId h.parentSpanId]
  generalize r.parentId = x at hparent
  generalize s.parentId = y at hparent
  cases hparent with
  | none => rfl
  | some hxy => simp only [hxy.1]

theorem FieldsAlike.alike (h : r.FieldsAlike s) : r.Alike s where
  ownId? := h.ownId?
  toSpan known index id := by
    unfold SpanRecord.toSpan
    rw [bind_toMillis?_of_alike h.startTime, bind_toMillis?_of_alike h.endTime, h.parent? known,
      h.operationName, h.label, h.applicationCode, h.serviceCode, h.actorId, h.kind, h.component, h.peer,
      h.layer, h.isError, map_eq_map_of_forall₂ h.tags, map_eq_map_of_forall₂ h.logs,
      map_eq_map_of_forall₂ (h.refs.imp fun _ _ h => h.1)]

/-! ## Whole traces -/

variable {records records' : List SpanRecord}

theorem ownIds_eq_of_alike (h : List.Forall₂ Alike records records') (index : Nat) :
    ownIds index records = ownIds index records' := by
  induction h generalizing index with
  | nil => rfl
  | cons hrs _ ih => simp only [ownIds, hrs.ownId?, ih]

theorem toSpans_eq_of_alike (h : List.Forall₂ Alike records records') (known : List String) (index : Nat)
    (ids : List String) :
    toSpans known index (records.zip ids) = toSpans known index (records'.zip ids) := by
  induction h generalizing index ids with
  | nil => rfl
  | cons hrs _ ih =>
    cases ids with
    | nil => rfl
    | cons id ids => simp only [List.zip_cons_cons, toSpans, hrs.toSpan, ih]

/-- **Records that are alike one by one** give the same spans, or the same complaint. -/
theorem resolve_eq_of_alike (h : List.Forall₂ Alike records records') :
    resolve records = resolve records' := by
  unfold resolve
  rw [ownIds_eq_of_alike h]
  cases ownIds 0 records' with
  | error e => rfl
  | ok ids => exact toSpans_eq_of_alike h ids 0 ids

end SpanRecord

end Waterfall
