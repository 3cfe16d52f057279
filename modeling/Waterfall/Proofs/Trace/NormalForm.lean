import Waterfall.Proofs.Trace.Parents

/-!
# Spans written in normal form

A document in normal form writes each span under the names that need no resolving: its own id, the
parent as given, label and actor, and leaves out what a span does not have. `Span.normalForm` is that
value; its members stand in the order of their names, as they do in every object that is read.

Reading undoes it (`SpanRecord.ofJson_normalForm`, `SpanRecord.yields_toRecord`), provided that times are
in range and that no reference points to a span of the document: such a reference would win over the
parent as given.
-/

namespace Waterfall

/-! ## Writing -/

/-- A member that is left out without a value. -/
def Json.given (name : String) (value : Option String) : List (String × Json) :=
  (value.map fun s => (name, .text s)).toList

def Tag.normalForm (t : Tag) : Json := .object [("key", .text t.key), ("value", .text t.value)]

def LogEntry.normalForm (l : LogEntry) : Json := .object [
  ("data", .list (l.data.map Tag.normalForm)), ("time", .whole l.time)]

def Reference.normalMembers (r : Reference) : List (String × Json) :=
  Json.given "parentSegmentId" r.parentSegmentId ++ Json.given "parentSpanId" r.parentSpanId ++
    Json.given "traceId" r.traceId ++ Json.given "type" r.kind

def Reference.normalForm (r : Reference) : Json := .object r.normalMembers

def Span.normalMembers (s : Span) : List (String × Json) :=
  [("actorId", .text s.actor)] ++ Json.given "component" s.component ++
  [("endTime", .whole s.endTime), ("id", .text s.id), ("isError", .flag s.isError),
   ("label", .text s.label)] ++
  Json.given "layer" s.layer ++ [("logs", .list (s.logs.map LogEntry.normalForm))] ++
  Json.given "parentId" s.parentId ++ Json.given "peer" s.peer ++
  [("refs", .list (s.refs.map Reference.normalForm)), ("startTime", .whole s.startTime),
   ("tags", .list (s.tags.map Tag.normalForm)), ("type", .text s.kind.name)]

def Span.normalForm (s : Span) : Json := .object s.normalMembers

/-- The list of spans of a document in normal form. -/
def normalList (spans : List Span) : Json := .list (spans.map Span.normalForm)

/-- The same list under its name. -/
def normalObject (spans : List Span) : Json := .object [("spans", normalList spans)]

/-! ## The records in between -/

def Tag.toRecord (t : Tag) : TagRecord := ⟨t.key, some (.text t.value)⟩

def LogEntry.toRecord (l : LogEntry) : LogRecord := ⟨some (.whole l.time), l.data.map Tag.toRecord⟩

def Reference.toRecord (r : Reference) : ReferenceRecord where
  traceId := r.traceId.map .text
  parentSegmentId := r.parentSegmentId.map .text
  parentSpanId := r.parentSpanId.map .text
  kind := r.kind

def Span.toRecord (s : Span) : SpanRecord where
  id := some (.text s.id)
  parentId := s.parentId.map .text
  spanId := none
  segmentId := none
  parentSpanId := none
  startTime := some (.whole s.startTime)
  endTime := some (.whole s.endTime)
  operationName := none
  label := some s.label
  applicationCode := none
  serviceCode := none
  actorId := some s.actor
  kind := some s.kind.name
  component := s.component
  peer := s.peer
  layer := s.layer
  isError := some s.isError
  tags := s.tags.map Tag.toRecord
  logs := s.logs.map LogEntry.toRecord
  refs := s.refs.map Reference.toRecord

/-- All times of the span are in the range of times. -/
structure Span.TimesFit (s : Span) : Prop where
  startTime : Time.fits s.startTime
  endTime : Time.fits s.endTime
  logs : ∀ l ∈ s.logs, Time.fits l.time

/-- The id of the span that a reference points to, if it names one. -/
def Reference.target? (r : Reference) : Option String :=
  r.parentSpanId.map fun span =>
    match r.parentSegmentId with
    | some segment => segment ++ "," ++ span
    | none => span

/-! ## Fields by name -/

section Fields

open JsonDecoder

variable {α : Type} {name : String} {members : List (String × Json)}

theorem byName_needed {read : JsonDecoder α} (node : Json) {v : α}
    (h : members.lookup name = some node) (hread : read node = .ok v) :
    ({ name, read, presence := .required } : Field JsonDecoder α).ByName members v := by
  simpa [Field.ByName, h] using hread

theorem byName_maybe_of_none (read : JsonDecoder α) (h : members.lookup name = none) :
    (maybe name read).ByName members none := by
  simp [Field.ByName, maybe, h, Presence.unnamed]

theorem byName_maybe_of_some {read : JsonDecoder α} (node : Json) {v : α}
    (h : members.lookup name = some node) (hnode : node ≠ .null) (hread : read node = .ok v) :
    (maybe name read).ByName members (some v) := by
  simp only [Field.ByName, maybe, h]
  cases node with
  | null => exact absurd rfl hnode
  | _ => simp [JsonDecoder.optional, hread, Except.map]

theorem byName_scalar (value : Option String) (h : members.lookup name = value.map .text) :
    (maybe name Scalar.ofJson).ByName members (value.map .text) := by
  cases value with
  | none => exact byName_maybe_of_none _ h
  | some s => exact byName_maybe_of_some (.text s) h (by simp) rfl

theorem byName_text (value : Option String) (h : members.lookup name = value.map .text) :
    (maybe name text).ByName members value := by
  cases value with
  | none => exact byName_maybe_of_none _ h
  | some s => exact byName_maybe_of_some (.text s) h (by simp) rfl

/-- A list is read back when each of its items is. -/
theorem byName_listOf {β : Type} {read : JsonDecoder α} (write : β → Json) {f : β → α} {items : List β}
    (hread : ∀ b ∈ items, read (write b) = .ok (f b))
    (h : members.lookup name = some (.list (items.map write))) :
    (listOf name read).ByName members (items.map f) := by
  simp only [Field.ByName, listOf, h]
  refine list_eq_ok_iff.mpr ⟨_, rfl, ?_⟩
  rw [List.forall₂_map_left_iff, List.forall₂_map_right_iff, List.forall₂_same]
  exact hread

end Fields

theorem Json.lookup_given (name : String) (value : Option String) (key : String) :
    (Json.given name value).lookup key = if key = name then value.map .text else none := by
  cases value with
  | none => simp [Json.given]
  | some s =>
    by_cases h : key = name
    · simp [Json.given, h]
    · have hne : (key == name) = false := by simpa using h
      simp [Json.given, List.lookup_cons, h, hne]

theorem Json.keys_given_sublist (name : String) (value : Option String) :
    ((Json.given name value).map Prod.fst).Sublist [name] := by
  cases value <;> simp [Json.given]

theorem Scalar.ofJson_whole {n : Int} (h : Time.fits n) : Scalar.ofJson (.whole n) = .ok (.whole n) := by
  have := (Time.fits_iff.mp h).2
  simp [Scalar.ofJson, Json.whole, this]

/-! ## Reading back -/

theorem TagRecord.ofJson_normalForm (t : Tag) : TagRecord.ofJson t.normalForm = .ok t.toRecord := by
  refine bind_eq_ok_iff.mpr ⟨(t.key, some (.text t.value), ()), ?_, rfl⟩
  refine (Fields.ofMembers_eq_ok_iff (by simp [Fields.Distinct, Fields.names, JsonDecoder.maybe])
    (by simp)).mpr ⟨?_, ?_, trivial⟩
  · exact byName_needed (.text t.key) rfl rfl
  · exact byName_maybe_of_some (.text t.value) rfl (by simp) rfl

theorem LogRecord.ofJson_normalForm {l : LogEntry} (h : Time.fits l.time) :
    LogRecord.ofJson l.normalForm = .ok l.toRecord := by
  refine bind_eq_ok_iff.mpr ⟨(some (.whole l.time), l.data.map Tag.toRecord, ()), ?_, rfl⟩
  refine (Fields.ofMembers_eq_ok_iff
    (by simp [Fields.Distinct, Fields.names, JsonDecoder.maybe, JsonDecoder.listOf])
    (by simp)).mpr ⟨?_, ?_, trivial⟩
  · exact byName_maybe_of_some (.whole l.time) (by simp [List.lookup_cons]) (by simp [Json.whole])
      (Scalar.ofJson_whole h)
  · exact byName_listOf Tag.normalForm (fun t _ => TagRecord.ofJson_normalForm t)
      (by simp)

theorem ReferenceRecord.ofJson_normalForm (r : Reference) :
    ReferenceRecord.ofJson r.normalForm = .ok r.toRecord := by
  have hkeys : (r.normalMembers.map Prod.fst).Nodup := by
    have hsub : (r.normalMembers.map Prod.fst).Sublist
        (["parentSegmentId"] ++ ["parentSpanId"] ++ ["traceId"] ++ ["type"]) := by
      simp only [Reference.normalMembers, List.map_append]
      exact (((Json.keys_given_sublist _ _).append (Json.keys_given_sublist _ _)).append
        (Json.keys_given_sublist _ _)).append (Json.keys_given_sublist _ _)
    exact List.Nodup.sublist hsub (by decide)
  have hlookup : ∀ key, r.normalMembers.lookup key = _ := fun key => by
    simp only [Reference.normalMembers, List.lookup_append, Json.lookup_given]
    rfl
  refine bind_eq_ok_iff.mpr ⟨(r.traceId.map .text, r.parentSegmentId.map .text,
    r.parentSpanId.map .text, r.kind, ()), ?_, rfl⟩
  refine (Fields.ofMembers_eq_ok_iff (by simp [Fields.Distinct, Fields.names, JsonDecoder.maybe])
    hkeys).mpr ⟨?_, ?_, ?_, ?_, trivial⟩
  · exact byName_scalar r.traceId (by simp [hlookup])
  · exact byName_scalar r.parentSegmentId (by simp [hlookup])
  · exact byName_scalar r.parentSpanId (by simp [hlookup])
  · exact byName_text r.kind (by simp [hlookup])

theorem Span.keys_normalMembers_nodup (s : Span) : (s.normalMembers.map Prod.fst).Nodup := by
  have hsub : (s.normalMembers.map Prod.fst).Sublist
      (["actorId"] ++ ["component"] ++ ["endTime", "id", "isError", "label"] ++ ["layer"] ++ ["logs"] ++
        ["parentId"] ++ ["peer"] ++ ["refs", "startTime", "tags", "type"]) := by
    simp only [Span.normalMembers, List.map_append]
    refine List.Sublist.append (List.Sublist.append (List.Sublist.append (List.Sublist.append
      (List.Sublist.append (List.Sublist.append (List.Sublist.append ?_ ?_) ?_) ?_) ?_) ?_) ?_) ?_
    all_goals first | exact Json.keys_given_sublist _ _ | exact .refl _
  exact List.Nodup.sublist hsub (by decide)

theorem SpanRecord.distinct_fields : SpanRecord.fields.Distinct := by
  simp [SpanRecord.fields, Fields.Distinct, Fields.names, JsonDecoder.maybe, JsonDecoder.listOf]

theorem SpanRecord.ofJson_normalForm {s : Span} (h : s.TimesFit) :
    SpanRecord.ofJson s.normalForm = .ok s.toRecord := by
  refine bind_eq_ok_iff.mpr ⟨(some (.text s.id), s.parentId.map .text, none, none, none,
    some (.whole s.startTime), some (.whole s.endTime), none, some s.label, none, none, some s.actor,
    some s.kind.name, s.component, s.peer, s.layer, some s.isError, s.tags.map Tag.toRecord,
    s.logs.map LogEntry.toRecord, s.refs.map Reference.toRecord, ()), ?_, rfl⟩
  have hlookup : ∀ key, s.normalMembers.lookup key = _ := fun key => by
    simp only [Span.normalMembers, List.lookup_append, Json.lookup_given, List.lookup_cons,
      List.lookup_nil]
    rfl
  refine (Fields.ofMembers_eq_ok_iff SpanRecord.distinct_fields s.keys_normalMembers_nodup).mpr
    ⟨?_, ?_, ?_, ?_, ?_, ?_, ?_, ?_, ?_, ?_, ?_, ?_, ?_, ?_, ?_, ?_, ?_, ?_, ?_, ?_, trivial⟩
  · exact byName_scalar (some s.id) (by simp [hlookup])
  · exact byName_scalar s.parentId (by simp [hlookup])
  · exact byName_maybe_of_none _ (by simp [hlookup])
  · exact byName_maybe_of_none _ (by simp [hlookup])
  · exact byName_maybe_of_none _ (by simp [hlookup])
  · exact byName_maybe_of_some (.whole s.startTime) (by simp [hlookup]) (by simp [Json.whole])
      (Scalar.ofJson_whole h.startTime)
  · exact byName_maybe_of_some (.whole s.endTime) (by simp [hlookup]) (by simp [Json.whole])
      (Scalar.ofJson_whole h.endTime)
  · exact byName_maybe_of_none _ (by simp [hlookup])
  · exact byName_text (some s.label) (by simp [hlookup])
  · exact byName_maybe_of_none _ (by simp [hlookup])
  · exact byName_maybe_of_none _ (by simp [hlookup])
  · exact byName_text (some s.actor) (by simp [hlookup])
  · exact byName_text (some s.kind.name) (by simp [hlookup])
  · exact byName_text s.component (by simp [hlookup])
  · exact byName_text s.peer (by simp [hlookup])
  · exact byName_text s.layer (by simp [hlookup])
  · exact byName_maybe_of_some (.flag s.isError) (by simp [hlookup]) (by simp) rfl
  · exact byName_listOf Tag.normalForm (fun t _ => TagRecord.ofJson_normalForm t)
      (by simp [hlookup])
  · exact byName_listOf LogEntry.normalForm
      (fun l hl => LogRecord.ofJson_normalForm (h.logs l hl)) (by simp [hlookup])
  · exact byName_listOf Reference.normalForm
      (fun r _ => ReferenceRecord.ofJson_normalForm r) (by simp [hlookup])

/-! ## Resolving -/

theorem Tag.toTag_toRecord (t : Tag) : t.toRecord.toTag = t := rfl

theorem LogEntry.toEntry_toRecord (l : LogEntry) : l.toRecord.toEntry = l := by
  have hdata : l.data.map (TagRecord.toTag ∘ Tag.toRecord) = l.data := List.map_id' l.data
  simp [LogEntry.toRecord, LogRecord.toEntry, Scalar.toMillis?, hdata]

theorem Reference.toReference_toRecord (r : Reference) : r.toRecord.toReference = r := by
  have htext : Scalar.toText ∘ Scalar.text = id := rfl
  simp [Reference.toRecord, ReferenceRecord.toReference, htext]

/-- A reference points to the same id before and after it is written. -/
theorem Reference.target?_toRecord (r : Reference) : r.toRecord.target? = r.target? := by
  obtain ⟨traceId, segment, span, kind⟩ := r
  cases segment <;> cases span <;> rfl

/-- The parent as given stands where no reference leads to a known span. -/
theorem Span.parent?_toRecord {s : Span} {known : List String}
    (hrefs : ∀ r ∈ s.refs, ∀ t, r.target? = some t → t ∉ known) :
    s.toRecord.parent? known = s.parentId := by
  have htargets : s.toRecord.targets = s.refs.filterMap Reference.target? := by
    simp only [SpanRecord.targets, Span.toRecord, List.filterMap_map]
    exact List.filterMap_congr fun r _ => r.target?_toRecord
  have hforeign : s.toRecord.targets.find? (known.contains ·) = none := by
    refine List.find?_eq_none.mpr fun t ht => ?_
    rw [htargets] at ht
    obtain ⟨r, hr, htarget⟩ := List.mem_filterMap.mp ht
    simpa using hrefs r hr t htarget
  rw [SpanRecord.parent?_eq, hforeign]
  cases hparent : s.parentId <;> simp [Span.toRecord, hparent, SpanRecord.segmentParent?, Scalar.toText]

/-- The record of a span yields the span. -/
theorem Span.yields_toRecord {s : Span} {known : List String}
    (hrefs : ∀ r ∈ s.refs, ∀ t, r.target? = some t → t ∉ known) :
    s.toRecord.Yields known s := by
  refine ⟨rfl, 0, ?_⟩
  have htags : (s.tags.map Tag.toRecord).map TagRecord.toTag = s.tags := by
    simp [Function.comp_def, Tag.toTag_toRecord]
  have hlogs : (s.logs.map LogEntry.toRecord).map LogRecord.toEntry = s.logs := by
    simp [Function.comp_def, LogEntry.toEntry_toRecord]
  have hreferences : (s.refs.map Reference.toRecord).map ReferenceRecord.toReference = s.refs := by
    simp [Function.comp_def, Reference.toReference_toRecord]
  have hkind : (s.toRecord.kind.bind SpanKind.ofToken?).getD .internal = s.kind := by
    simp [Span.toRecord, SpanKind.ofToken?_name]
  simp only [SpanRecord.toSpan, Span.parent?_toRecord hrefs, hkind]
  simp only [Span.toRecord, Option.bind_some, Scalar.toMillis?, htags, hlogs, hreferences]
  rfl

/-! ## Main statement -/

/-- The list of a document in normal form is read back. -/
theorem spansOfDocument_of_locateSpans {document : Json} {spans : List Span}
    (hlocated : locateSpans document = some (normalList spans))
    (htimes : ∀ s ∈ spans, s.TimesFit)
    (hrefs : ∀ s ∈ spans, ∀ r ∈ s.refs, ∀ t, r.target? = some t → t ∉ spans.map (·.id)) :
    spansOfDocument document = .ok spans := by
  have hrecords : JsonDecoder.list SpanRecord.ofJson (normalList spans) =
      .ok (spans.map Span.toRecord) := by
    refine list_eq_ok_iff.mpr ⟨_, rfl, ?_⟩
    rw [List.forall₂_map_left_iff, List.forall₂_map_right_iff, List.forall₂_same]
    exact fun s hs => SpanRecord.ofJson_normalForm (htimes s hs)
  simp only [spansOfDocument, hlocated, hrecords]
  rw [SpanRecord.resolve_eq_ok_iff, List.forall₂_map_left_iff, List.forall₂_same]
  exact fun s hs => Span.yields_toRecord (hrefs s hs)

/-- **The normal form is read back.** Spans with times in range, none of which refers to a span of the
list, are what their document in normal form is read as, with the list bare or under its name. -/
theorem parseTrace_normalForm {spans : List Span} (htimes : ∀ s ∈ spans, s.TimesFit)
    (hrefs : ∀ s ∈ spans, ∀ r ∈ s.refs, ∀ t, r.target? = some t → t ∉ spans.map (·.id)) :
    spansOfDocument (normalList spans) = .ok spans ∧ spansOfDocument (normalObject spans) = .ok spans ∧
    ∀ input, Json.ofText input.toList = .ok (normalList spans) ∨
      Json.ofText input.toList = .ok (normalObject spans) → parseTrace input = .ok spans := by
  have hlist : spansOfDocument (normalList spans) = .ok spans :=
    spansOfDocument_of_locateSpans (by simp [normalList, locateSpans]) htimes hrefs
  have hobject : spansOfDocument (normalObject spans) = .ok spans :=
    spansOfDocument_of_locateSpans (by simp [normalObject, locateSpans, Json.member?]) htimes hrefs
  refine ⟨hlist, hobject, ?_⟩
  rintro input (htext | htext)
  · simp only [parseTrace, htext, hlist]
  · simp only [parseTrace, htext, hobject]

/-- Two spans whose texts could pass for values of other kinds; the first refers to a span of another
trace, the second lists a parent that comes before it. -/
def ambiguousTexts : List Span := [
  { id := "7", parentId := none, startTime := -3, endTime := 9, label := "", actor := "a,\"b\"",
    kind := .exit, tags := [⟨"k", "1"⟩], logs := [⟨4, [⟨"", "null"⟩]⟩],
    refs := [{ traceId := some "t", parentSpanId := some "9" }] },
  { id := "0,1", parentId := some "7", startTime := 0, endTime := 0, label := "true", actor := "",
    peer := some "", isError := true }]

theorem ambiguousTexts_read_back :
    spansOfDocument (normalList ambiguousTexts) = .ok ambiguousTexts ∧
    spansOfDocument (normalObject ambiguousTexts) = .ok ambiguousTexts := by
  have htimes : ∀ s ∈ ambiguousTexts, s.TimesFit := by
    simp only [ambiguousTexts, List.mem_cons, List.not_mem_nil, or_false]
    rintro s (rfl | rfl)
    · exact ⟨by decide, by decide, by simp; decide⟩
    · exact ⟨by decide, by decide, by simp⟩
  have hrefs : ∀ s ∈ ambiguousTexts, ∀ r ∈ s.refs, ∀ t, r.target? = some t →
      t ∉ ambiguousTexts.map (·.id) := by
    simp [ambiguousTexts, Reference.target?]
  have hread := parseTrace_normalForm htimes hrefs
  exact ⟨hread.1, hread.2.1⟩

end Waterfall
