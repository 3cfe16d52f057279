import Waterfall.Proofs.Json.Arranging
import Waterfall.Proofs.Trace.Alike
import Waterfall.Proofs.Trace.NormalForm

/-!
# Parts of a trace document

What a value of a document is read as depends on where it stands: as a list of spans, a span, a scalar.
`Part` names these places, and `Part.member` and `Part.item` lead from a place to those inside it. Two
values are alike in a place if reading them there makes no difference (`Part.Alike`).

Values whose members or items are alike in their places are alike (`Part.alike_object`,
`Part.alike_list`), so that a change anywhere in a document that makes no difference in its place makes none
for the trace (`Within.alike`).
-/

namespace Waterfall

/-! ## Readers of JSON values -/

namespace JsonDecoder

variable {α : Type} {R : α → α → Prop}

theorem list_agree {read : JsonDecoder α} {vs ws : List Json}
    (h : List.Forall₂ (fun v w => Agree R (read v) (read w)) vs ws) :
    Agree (List.Forall₂ R) (list read (.list vs)) (list read (.list ws)) := by
  have hlist : ∀ vs, list read (.list vs) = vs.mapM read := fun vs => by simp [list]
  rw [hlist, hlist]
  exact Agree.mapM h

variable {ts : List Type} {fs : Fields JsonDecoder ts} {same : String → Json → Json → Prop}
  {Rs : Relations ts}

/-- A record given as an object. -/
theorem record_object_agree (title : String) (hfs : fs.Distinct) (h : fs.Respects same Rs)
    {ms ns : List (String × Json)} (hms : SameNames same ms ns) :
    Agree Rs.Holds (record title fs (.object ms)) (record title fs (.object ns)) :=
  Fields.ofMembers_agree hfs h hms

/-- A record given as the list of its values. -/
theorem record_list_agree (title : String) (h : fs.Respects same Rs) {vs ws : List Json}
    (hvs : SamePlaces same fs.names vs ws) :
    Agree Rs.Holds (record title fs (.list vs)) (record title fs (.list ws)) := by
  refine (Fields.ofItems_agree h title fs.length 0 hvs).bind fun x y hxy => ?_
  obtain ⟨values, left⟩ := x
  obtain ⟨values', left'⟩ := y
  obtain ⟨hvalues, hleft⟩ := hxy
  have hempty : left.isEmpty = left'.isEmpty := by
    rw [Bool.eq_iff_iff, List.isEmpty_iff_length_eq_zero, List.isEmpty_iff_length_eq_zero, hleft]
  simp only [hempty, hvs.length_eq]
  split
  · exact .ok hvalues
  · exact .error _

end JsonDecoder

/-! ## Places in a document -/

/-- What the value in a place of a trace document is read as. -/
inductive Part where
  | document
  | spans
  | span
  | tags
  | tag
  | logs
  | log
  | references
  | reference
  | scalar
  /-- Anything else: a text, a flag, or a value that is not read at all. -/
  | other

namespace Part

/-- The members of an object in this place that are read, and what each is read as. -/
def members : Part → List (String × Part)
  | document => [("spans", spans), ("queryTrace", document), ("data", document)]
  | span => [("id", scalar), ("parentId", scalar), ("spanId", scalar), ("segmentId", scalar),
      ("parentSpanId", scalar), ("startTime", scalar), ("endTime", scalar), ("operationName", other),
      ("label", other), ("applicationCode", other), ("serviceCode", other), ("actorId", other),
      ("type", other), ("component", other), ("peer", other), ("layer", other), ("isError", other),
      ("tags", tags), ("logs", logs), ("refs", references)]
  | tag => [("key", other), ("value", scalar)]
  | log => [("time", scalar), ("data", tags)]
  | reference => [("traceId", scalar), ("parentSegmentId", scalar), ("parentSpanId", scalar),
      ("type", other)]
  | _ => []

/-- The names that an object in this place is asked for. -/
def names (p : Part) : List String := p.members.map Prod.fst

/-- The members that an object in this place is asked for. -/
def asked (p : Part) (ms : List (String × Json)) : List (String × Json) :=
  ms.filter fun m => p.names.contains m.1

/-- The place of a member. -/
def member (p : Part) (name : String) : Part := (p.members.lookup name).getD other

/-- The place of an item of a list. -/
def item : Part → Nat → Part
  | document, _ => span
  | spans, _ => span
  | tags, _ => tag
  | logs, _ => log
  | references, _ => reference
  -- A record may be given as the list of its values.
  | p, i => (p.names[i]?.map p.member).getD other

/-- Reading either value in this place makes no difference. -/
def Alike : Part → Json → Json → Prop
  | document, v, w => spansOfDocument v = spansOfDocument w
  | spans, v, w => Agree (List.Forall₂ SpanRecord.Alike) (JsonDecoder.list SpanRecord.ofJson v)
      (JsonDecoder.list SpanRecord.ofJson w)
  | span, v, w => Agree SpanRecord.Alike (SpanRecord.ofJson v) (SpanRecord.ofJson w)
  | tags, v, w => Agree (List.Forall₂ TagRecord.Alike) (JsonDecoder.list TagRecord.ofJson v)
      (JsonDecoder.list TagRecord.ofJson w)
  | tag, v, w => Agree TagRecord.Alike (TagRecord.ofJson v) (TagRecord.ofJson w)
  | logs, v, w => Agree (List.Forall₂ LogRecord.Alike) (JsonDecoder.list LogRecord.ofJson v)
      (JsonDecoder.list LogRecord.ofJson w)
  | log, v, w => Agree LogRecord.Alike (LogRecord.ofJson v) (LogRecord.ofJson w)
  | references, v, w => Agree (List.Forall₂ ReferenceRecord.Alike)
      (JsonDecoder.list ReferenceRecord.ofJson v) (JsonDecoder.list ReferenceRecord.ofJson w)
  | reference, v, w => Agree ReferenceRecord.Alike (ReferenceRecord.ofJson v) (ReferenceRecord.ofJson w)
  | scalar, v, w => Agree (Option.Rel Scalar.Alike) (JsonDecoder.optional Scalar.ofJson v)
      (JsonDecoder.optional Scalar.ofJson w)
  | other, v, w => v = w

theorem alike_refl (p : Part) (v : Json) : p.Alike v v := by
  cases p with
  | document => exact Eq.refl (spansOfDocument v)
  | spans => exact Agree.refl List.forall₂_refl _
  | span => exact Agree.refl (refl_of SpanRecord.Alike) _
  | tags => exact Agree.refl List.forall₂_refl _
  | tag => exact Agree.refl (refl_of TagRecord.Alike) _
  | logs => exact Agree.refl List.forall₂_refl _
  | log => exact Agree.refl (refl_of LogRecord.Alike) _
  | references => exact Agree.refl List.forall₂_refl _
  | reference => exact Agree.refl (refl_of ReferenceRecord.Alike) _
  | scalar => exact Agree.refl Scalar.alike_refl _
  | other => exact Eq.refl v

section Records

variable {p : Part} {name : String}

theorem respects_scalar (h : p.member name = scalar) :
    (JsonDecoder.maybe name Scalar.ofJson).Respects (p.member name).Alike (Option.Rel Scalar.Alike) where
  read v w hvw := by
    rw [h] at hvw
    exact hvw
  refl := Scalar.alike_refl

theorem respects_other {α : Type} (f : Field JsonDecoder α) (h : p.member f.name = other) :
    f.Respects (p.member f.name).Alike Eq where
  read v w hvw := by
    rw [h] at hvw
    obtain rfl : v = w := hvw
    exact .refl (fun _ => rfl) _
  refl _ := rfl

end Records

/-- How the records in a place are read: field by field, each member as what its place says, so that fields
that are read alike make records that are alike. -/
structure Reading (p : Part) {α : Type} (read : JsonDecoder α) (R : α → α → Prop) where
  types : List Type
  title : String
  fields : Fields JsonDecoder types
  relations : Relations types
  build : Values types → α
  read_eq : ∀ v, read v = JsonDecoder.record title fields v >>= fun values => pure (build values)
  distinct : fields.Distinct
  names_eq : fields.names = p.names
  respects : fields.Respects (fun name => (p.member name).Alike) relations
  build_alike : ∀ x y, relations.Holds x y → R (build x) (build y)

namespace Reading

variable {p : Part} {α : Type} {read : JsonDecoder α} {R : α → α → Prop}

theorem object_agree (reading : Reading p read R) {ms ns : List (String × Json)}
    (h : SameNames (fun name => (p.member name).Alike) ms ns) :
    Agree R (read (.object ms)) (read (.object ns)) := by
  rw [reading.read_eq, reading.read_eq]
  refine (JsonDecoder.record_object_agree _ reading.distinct reading.respects h).bind fun x y hxy => ?_
  exact .ok (reading.build_alike x y hxy)

theorem list_agree (reading : Reading p read R) {vs ws : List Json}
    (h : SamePlaces (fun name => (p.member name).Alike) p.names vs ws) :
    Agree R (read (.list vs)) (read (.list ws)) := by
  rw [reading.read_eq, reading.read_eq]
  rw [← reading.names_eq] at h
  refine (JsonDecoder.record_list_agree _ reading.respects h).bind fun x y hxy => ?_
  exact .ok (reading.build_alike x y hxy)

/-- Members with other names are passed over. -/
theorem object_asked (reading : Reading p read R) (ms : List (String × Json)) :
    read (.object (p.asked ms)) = read (.object ms) := by
  rw [reading.read_eq, reading.read_eq]
  have hknown : ∀ name ∈ reading.fields.names, p.names.contains name = true := by
    intro name hname
    rw [reading.names_eq] at hname
    simpa using hname
  have hfilter := Fields.ofMembers_filter reading.distinct hknown ms
  exact congrArg (· >>= fun values => pure (reading.build values)) hfilter

theorem asked_agree (reading : Reading p read R) (hR : ∀ a, R a a) {ms ns : List (String × Json)}
    (h : p.asked ms = p.asked ns) : Agree R (read (.object ms)) (read (.object ns)) := by
  rw [← reading.object_asked ms, ← reading.object_asked ns, h]
  exact Agree.refl hR _

end Reading

end Part

def TagRecord.reading : Part.Reading .tag TagRecord.ofJson TagRecord.Alike where
  types := [String, Option Scalar]
  title := "struct RawTag"
  fields := .cons { name := "key", read := JsonDecoder.text, presence := .required } <|
    .cons (JsonDecoder.maybe "value" Scalar.ofJson) .nil
  relations := (Eq, Option.Rel Scalar.Alike, ())
  build := fun (key, value, ()) => { key, value }
  read_eq _ := rfl
  distinct := by simp [Fields.Distinct, Fields.names, JsonDecoder.maybe]
  names_eq := rfl
  respects := ⟨Part.respects_other _ rfl, Part.respects_scalar rfl, trivial⟩
  build_alike _ _ h := TagRecord.alike_of_fields h.1 h.2.1

def LogRecord.reading : Part.Reading .log LogRecord.ofJson LogRecord.Alike where
  types := [Option Scalar, List TagRecord]
  title := "struct RawLog"
  fields := .cons (JsonDecoder.maybe "time" Scalar.ofJson) <|
    .cons (JsonDecoder.listOf "data" TagRecord.ofJson) .nil
  relations := (Option.Rel Scalar.Alike, List.Forall₂ TagRecord.Alike, ())
  build := fun (time, data, ()) => { time, data }
  read_eq _ := rfl
  distinct := by simp [Fields.Distinct, Fields.names, JsonDecoder.maybe, JsonDecoder.listOf]
  names_eq := rfl
  respects := ⟨Part.respects_scalar rfl, ⟨fun _ _ h => h, List.forall₂_refl⟩, trivial⟩
  build_alike _ _ h := LogRecord.alike_of_fields h.1 h.2.1

def ReferenceRecord.reading : Part.Reading .reference ReferenceRecord.ofJson ReferenceRecord.Alike where
  types := [Option Scalar, Option Scalar, Option Scalar, Option String]
  title := "struct RawRef"
  fields := .cons (JsonDecoder.maybe "traceId" Scalar.ofJson) <|
    .cons (JsonDecoder.maybe "parentSegmentId" Scalar.ofJson) <|
    .cons (JsonDecoder.maybe "parentSpanId" Scalar.ofJson) <|
    .cons (JsonDecoder.maybe "type" JsonDecoder.text) .nil
  relations := (Option.Rel Scalar.Alike, Option.Rel Scalar.Alike, Option.Rel Scalar.Alike, Eq, ())
  build := fun (traceId, parentSegmentId, parentSpanId, kind, ()) =>
    { traceId, parentSegmentId, parentSpanId, kind }
  read_eq _ := rfl
  distinct := by simp [Fields.Distinct, Fields.names, JsonDecoder.maybe]
  names_eq := rfl
  respects := ⟨Part.respects_scalar rfl, Part.respects_scalar rfl, Part.respects_scalar rfl,
    Part.respects_other _ rfl, trivial⟩
  build_alike _ _ h := ReferenceRecord.alike_of_fields h.1 h.2.1 h.2.2.1 h.2.2.2.1

def SpanRecord.reading : Part.Reading .span SpanRecord.ofJson SpanRecord.Alike where
  types := _
  title := "struct RawSpan"
  fields := SpanRecord.fields
  relations := (Option.Rel Scalar.Alike, Option.Rel Scalar.Alike, Option.Rel Scalar.Alike,
    Option.Rel Scalar.Alike, Option.Rel Scalar.Alike, Option.Rel Scalar.Alike, Option.Rel Scalar.Alike,
    Eq, Eq, Eq, Eq, Eq, Eq, Eq, Eq, Eq, Eq, List.Forall₂ TagRecord.Alike, List.Forall₂ LogRecord.Alike,
    List.Forall₂ ReferenceRecord.Alike, ())
  build := fun (id, parentId, spanId, segmentId, parentSpanId, startTime, endTime, operationName, label,
      applicationCode, serviceCode, actorId, kind, component, peer, layer, isError, tags, logs, refs, ()) =>
    { id, parentId, spanId, segmentId, parentSpanId, startTime, endTime, operationName, label,
      applicationCode, serviceCode, actorId, kind, component, peer, layer, isError, tags, logs, refs }
  read_eq _ := rfl
  distinct := SpanRecord.distinct_fields
  names_eq := rfl
  respects := ⟨Part.respects_scalar rfl, Part.respects_scalar rfl, Part.respects_scalar rfl,
    Part.respects_scalar rfl, Part.respects_scalar rfl, Part.respects_scalar rfl, Part.respects_scalar rfl,
    Part.respects_other _ rfl, Part.respects_other _ rfl, Part.respects_other _ rfl,
    Part.respects_other _ rfl, Part.respects_other _ rfl, Part.respects_other _ rfl,
    Part.respects_other _ rfl, Part.respects_other _ rfl, Part.respects_other _ rfl,
    Part.respects_other _ rfl, ⟨fun _ _ h => h, List.forall₂_refl⟩, ⟨fun _ _ h => h, List.forall₂_refl⟩,
    ⟨fun _ _ h => h, List.forall₂_refl⟩, trivial⟩
  build_alike x y h := by
    obtain ⟨id, parentId, spanId, segmentId, parentSpanId, startTime, endTime, operationName, label,
      applicationCode, serviceCode, actorId, kind, component, peer, layer, isError, tags, logs, refs, -⟩ := h
    exact SpanRecord.FieldsAlike.alike ⟨id, parentId, spanId, segmentId, parentSpanId, startTime, endTime,
      operationName, label, applicationCode, serviceCode, actorId, kind, component, peer, layer, isError, tags,
      logs, refs⟩

/-! ## Documents -/

/-- The spans of a list of records that has been read. -/
def spansOfRecords : Except Mismatch (List SpanRecord) → Except TraceError (List Span)
  | .error m => .error (.badShape m)
  | .ok records => SpanRecord.resolve records

/-- The spans given by a list of them. -/
def spansOfList (spans : Json) : Except TraceError (List Span) :=
  spansOfRecords (JsonDecoder.list SpanRecord.ofJson spans)

theorem spansOfDocument_list (vs : List Json) : spansOfDocument (.list vs) = spansOfList (.list vs) := by
  unfold spansOfDocument
  rw [locateSpans]
  rfl

/-- An object is asked for its spans first, and then for what it wraps. -/
theorem locateSpans_object (ms : List (String × Json)) :
    locateSpans (.object ms) =
      match Json.member? "spans" ms, Json.member? "queryTrace" ms, Json.member? "data" ms with
      | some spans, _, _ => some spans
      | none, some query, _ => locateSpans query
      | none, none, some data => locateSpans data
      | none, none, none => none := by
  rw [locateSpans]
  cases Json.member? "spans" ms with
  | some spans => rfl
  | none =>
    cases Json.member? "queryTrace" ms with
    | some query => rfl
    | none => cases Json.member? "data" ms <;> rfl

/-- The spans of an object that has these members, if any. -/
def spansFound : (spans query data : Option Json) → Except TraceError (List Span)
  | some spans, _, _ => spansOfList spans
  | none, some query, _ => spansOfDocument query
  | none, none, some data => spansOfDocument data
  | none, none, none => .error .noSpanList

theorem spansOfDocument_object (ms : List (String × Json)) :
    spansOfDocument (.object ms) =
      spansFound (Json.member? "spans" ms) (Json.member? "queryTrace" ms) (Json.member? "data" ms) := by
  unfold spansOfDocument
  rw [locateSpans_object]
  cases Json.member? "spans" ms with
  | some spans => rfl
  | none =>
    cases Json.member? "queryTrace" ms with
    | some query => rfl
    | none => cases Json.member? "data" ms <;> rfl

theorem spansOfList_eq_of_alike {v w : Json} (h : Part.spans.Alike v w) : spansOfList v = spansOfList w :=
  Agree.eq_of h fun _ _ => SpanRecord.resolve_eq_of_alike

theorem spansFound_eq_of_alike {spans spans' query query' data data' : Option Json}
    (hspans : Option.Rel Part.spans.Alike spans spans') (hquery : Option.Rel Part.document.Alike query query')
    (hdata : Option.Rel Part.document.Alike data data') :
    spansFound spans query data = spansFound spans' query' data' := by
  cases hspans with
  | some hvw => exact spansOfList_eq_of_alike hvw
  | none =>
    cases hquery with
    | some hvw => exact hvw
    | none =>
      cases hdata with
      | some hvw => exact hvw
      | none => rfl

namespace Part

/-! ## Values that are alike -/

/-- **Objects whose members are alike in their places are alike.** -/
theorem alike_object {p : Part} {ms ns : List (String × Json)}
    (h : SameNames (fun name => (p.member name).Alike) ms ns) : p.Alike (.object ms) (.object ns) := by
  cases p with
  | document =>
    show spansOfDocument _ = spansOfDocument _
    rw [spansOfDocument_object, spansOfDocument_object]
    exact spansFound_eq_of_alike (Json.sameNames_member? h "spans") (Json.sameNames_member? h "queryTrace")
      (Json.sameNames_member? h "data")
  | span => exact SpanRecord.reading.object_agree h
  | tag => exact TagRecord.reading.object_agree h
  | log => exact LogRecord.reading.object_agree h
  | reference => exact ReferenceRecord.reading.object_agree h
  | other =>
    have heq : List.Forall₂ Eq ms ns := h.imp fun _ _ hmn => Prod.ext hmn.1 hmn.2
    rw [List.forall₂_eq_eq_eq] at heq
    exact congrArg Json.object heq
  -- Where a list or a scalar is asked for, any object is refused in the same words.
  | spans => exact .error _
  | tags => exact .error _
  | logs => exact .error _
  | references => exact .error _
  | scalar => exact .error _

/-- As many items, alike in their places. -/
structure SameItems (p : Part) (vs ws : List Json) : Prop where
  length_eq : vs.length = ws.length
  alike : ∀ (i : Nat) (v w : Json), vs[i]? = some v → ws[i]? = some w → (p.item i).Alike v w

namespace SameItems

variable {p : Part} {vs ws : List Json}

theorem forall₂ (h : p.SameItems vs ws) {q : Part} (hitem : ∀ i, p.item i = q) :
    List.Forall₂ q.Alike vs ws := by
  refine List.forall₂_iff_get.mpr ⟨h.length_eq, ?_⟩
  intro i hv hw
  rw [← hitem i]
  exact h.alike i _ _ (List.getElem?_eq_getElem hv) (List.getElem?_eq_getElem hw)

theorem samePlaces (h : p.SameItems vs ws)
    (hitem : ∀ i, p.item i = (p.names[i]?.map p.member).getD other) :
    SamePlaces (fun name => (p.member name).Alike) p.names vs ws where
  length_eq := h.length_eq
  related i name v w hname hv hw := by
    have hplace : p.item i = p.member name := by rw [hitem, hname]; rfl
    rw [← hplace]
    exact h.alike i v w hv hw

end SameItems

/-- **Lists whose items are alike in their places are alike.** -/
theorem alike_list {p : Part} {vs ws : List Json} (h : p.SameItems vs ws) : p.Alike (.list vs) (.list ws) := by
  cases p with
  | document =>
    show spansOfDocument _ = spansOfDocument _
    rw [spansOfDocument_list, spansOfDocument_list]
    exact spansOfList_eq_of_alike (JsonDecoder.list_agree (h.forall₂ fun _ => rfl))
  | spans => exact JsonDecoder.list_agree (h.forall₂ fun _ => rfl)
  | span => exact SpanRecord.reading.list_agree (h.samePlaces fun _ => rfl)
  | tags => exact JsonDecoder.list_agree (h.forall₂ fun _ => rfl)
  | tag => exact TagRecord.reading.list_agree (h.samePlaces fun _ => rfl)
  | logs => exact JsonDecoder.list_agree (h.forall₂ fun _ => rfl)
  | log => exact LogRecord.reading.list_agree (h.samePlaces fun _ => rfl)
  | references => exact JsonDecoder.list_agree (h.forall₂ fun _ => rfl)
  | reference => exact ReferenceRecord.reading.list_agree (h.samePlaces fun _ => rfl)
  | scalar => exact .error _
  | other =>
    have heq : List.Forall₂ Eq vs ws := h.forall₂ (q := other) fun _ => rfl
    rw [List.forall₂_eq_eq_eq] at heq
    exact congrArg Json.list heq

/-- The places whose objects are asked for members by name. -/
def IsKeyed : Part → Prop
  | document | span | tag | log | reference => True
  | _ => False

/-- Members that an object is not asked for are passed over, whatever it is read as. -/
theorem spansOfDocument_asked (ms : List (String × Json)) :
    spansOfDocument (.object (document.asked ms)) = spansOfDocument (.object ms) := by
  have hmember : ∀ name ∈ document.names, Json.member? name (document.asked ms) = Json.member? name ms := by
    intro name hname
    have hknown : document.names.contains name = true := by simpa using hname
    exact Json.member?_filter hknown ms
  rw [spansOfDocument_object, spansOfDocument_object, hmember "spans" (by simp [names, members]),
    hmember "queryTrace" (by simp [names, members]), hmember "data" (by simp [names, members])]

/-- **Objects with the same members that they are asked for are alike.** -/
theorem alike_of_asked_eq {p : Part} (hp : p.IsKeyed) {ms ns : List (String × Json)}
    (h : p.asked ms = p.asked ns) : p.Alike (.object ms) (.object ns) := by
  cases p with
  | document =>
    show spansOfDocument _ = spansOfDocument _
    rw [← spansOfDocument_asked ms, ← spansOfDocument_asked ns, h]
  | span => exact SpanRecord.reading.asked_agree (refl_of SpanRecord.Alike) h
  | tag => exact TagRecord.reading.asked_agree (refl_of TagRecord.Alike) h
  | log => exact LogRecord.reading.asked_agree (refl_of LogRecord.Alike) h
  | reference => exact ReferenceRecord.reading.asked_agree (refl_of ReferenceRecord.Alike) h
  | _ => exact hp.elim

end Part

end Waterfall
