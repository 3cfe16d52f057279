import Waterfall.Proofs.Trace.Parents

/-!
# Spans told apart by their places

A span without an id of its own is identified by its place: the text of its segment, if it has one, and
that of its number, joined by a comma. The parent that a reference points to, or that is given by its
number in the same segment, is looked up by the id of its place.

The join is exact as long as numbers have no comma in them. Otherwise a part of the number can pass for
a part of the segment: the places `a,b` · `c` and `a` · `b,c` have one id. `SpanPlace.id_eq_id_iff` says
which places share their ids, and everything about documents follows from it.
-/

namespace Waterfall

/-- Where a span stands: the text of its segment, if there is one, and that of its number. -/
structure SpanPlace where
  segment : Option String
  number : String
  deriving DecidableEq, Repr

namespace SpanPlace

def ofScalars (segment : Option Scalar) (span : Scalar) : SpanPlace :=
  ⟨segment.map Scalar.toText, span.toText⟩

/-- The id that a span has by its place. -/
def id (p : SpanPlace) : String :=
  match p.segment with
  | some segment => segment ++ "," ++ p.number
  | none => p.number

theorem id_ofScalars (segment : Option Scalar) (span : Scalar) :
    (ofScalars segment span).id = segmentSpanId segment span := by
  cases segment <;> rfl

/-- The first part of one number, up to a comma, is the last part of the other segment. -/
def ShiftsTo (p q : SpanPlace) : Prop :=
  ∃ part, p.number = part ++ "," ++ q.number ∧ q.segment = some (SpanPlace.id ⟨p.segment, part⟩)

/-- The places differ by where the comma is taken to be. -/
def ReadsLike (p q : SpanPlace) : Prop := p.ShiftsTo q ∨ q.ShiftsTo p

/-- Two ways to cut a list at a comma are one, or the first part of one goes on with the second part of
the other. -/
theorem cut_of_append_comma_eq {a n b m : List Char} (h : a ++ ',' :: n = b ++ ',' :: m) :
    (a = b ∧ n = m) ∨ (∃ t, b = a ++ ',' :: t ∧ n = t ++ ',' :: m) ∨
      ∃ t, a = b ++ ',' :: t ∧ m = t ++ ',' :: n := by
  rcases List.append_eq_append_iff.mp h with ⟨t, rfl, hn⟩ | ⟨t, rfl, hm⟩
  · cases t with
    | nil => exact .inl (by simpa using hn)
    | cons c t =>
      obtain ⟨rfl, rfl⟩ := List.cons.inj hn
      exact .inr (.inl ⟨t, rfl, rfl⟩)
  · cases t with
    | nil => exact .inl (by simpa [eq_comm] using hm)
    | cons c t =>
      obtain ⟨rfl, rfl⟩ := List.cons.inj hm
      exact .inr (.inr ⟨t, rfl, rfl⟩)

theorem eq_append_comma {x y z : String} (h : x.toList = y.toList ++ ',' :: z.toList) :
    x = y ++ "," ++ z := by
  apply String.toList_injective
  simpa using h

theorem ShiftsTo.id_eq {p q : SpanPlace} (h : p.ShiftsTo q) : p.id = q.id := by
  obtain ⟨part, hnumber, hsegment⟩ := h
  rw [id, id, hnumber, hsegment]
  cases p.segment <;> simp [id, String.append_assoc]

/-- **Places with one id**: the same place, or places that differ by where the comma is taken to be. -/
theorem id_eq_id_iff {p q : SpanPlace} : p.id = q.id ↔ p = q ∨ p.ReadsLike q := by
  constructor
  · intro h
    obtain ⟨pseg, n⟩ := p
    obtain ⟨qseg, m⟩ := q
    cases pseg with
    | none =>
      cases qseg with
      | none => exact .inl (by rw [show n = m from h])
      | some b => exact .inr (.inl ⟨b, h, rfl⟩)
    | some a =>
      cases qseg with
      | none => exact .inr (.inr ⟨a, h.symm, rfl⟩)
      | some b =>
        have hchars : a.toList ++ ',' :: n.toList = b.toList ++ ',' :: m.toList := by
          simpa [id] using congrArg String.toList h
        rcases cut_of_append_comma_eq hchars with ⟨hab, hnm⟩ | ⟨t, hb, hn⟩ | ⟨t, ha, hm⟩
        · rw [String.toList_injective hab, String.toList_injective hnm]
          exact .inl rfl
        · refine .inr (.inl ⟨.ofList t, eq_append_comma (by simpa using hn), ?_⟩)
          exact congrArg some (eq_append_comma (by simpa using hb))
        · refine .inr (.inr ⟨.ofList t, eq_append_comma (by simpa using hm), ?_⟩)
          exact congrArg some (eq_append_comma (by simpa using ha))
  · rintro (rfl | h | h)
    · rfl
    · exact h.id_eq
    · exact h.id_eq.symm

/-- Numbers without a comma leave no doubt. -/
theorem not_readsLike {p q : SpanPlace} (hp : ',' ∉ p.number.toList) (hq : ',' ∉ q.number.toList) :
    ¬p.ReadsLike q := by
  rintro (⟨part, hnumber, -⟩ | ⟨part, hnumber, -⟩)
  · exact hp (by simp [hnumber])
  · exact hq (by simp [hnumber])

end SpanPlace

/-! ## The places in a record -/

/-- The place that a reference points to, if it names a span. -/
def ReferenceRecord.place? (r : ReferenceRecord) : Option SpanPlace :=
  r.parentSpanId.map (SpanPlace.ofScalars r.parentSegmentId)

namespace SpanRecord

/-- The place of the span itself. -/
def place? (r : SpanRecord) : Option SpanPlace := r.spanId.map (SpanPlace.ofScalars r.segmentId)

/-- The places that may be those of the parent: those of the references, and that in the same segment. -/
def namedPlaces (r : SpanRecord) : List SpanPlace :=
  r.refs.filterMap ReferenceRecord.place? ++
    (r.parentSpanId.map (SpanPlace.ofScalars r.segmentId)).toList

theorem ownId?_of_id_eq_none {r : SpanRecord} (h : r.id = none) : r.ownId? = r.place?.map SpanPlace.id := by
  simp only [ownId?, h, place?, Option.map_map]
  cases r.spanId <;> simp [SpanPlace.id_ofScalars]

theorem targets_eq (r : SpanRecord) :
    r.targets = (r.refs.filterMap ReferenceRecord.place?).map SpanPlace.id := by
  have htarget : ReferenceRecord.target? = fun t => t.place?.map SpanPlace.id := by
    funext t
    cases hspan : t.parentSpanId <;>
      simp [ReferenceRecord.target?, ReferenceRecord.place?, hspan, SpanPlace.id_ofScalars]
  rw [targets, htarget, List.map_filterMap]

theorem segmentParent?_eq (r : SpanRecord) :
    r.segmentParent? = (r.parentSpanId.map (SpanPlace.ofScalars r.segmentId)).map SpanPlace.id := by
  cases hspan : r.parentSpanId <;> simp [segmentParent?, hspan, SpanPlace.id_ofScalars]

/-- A parent is written out as it is, or it is the first of the named places with the id of a span. -/
theorem parent?_eq_some_cases {known : List String} {r : SpanRecord} {parent : String}
    (h : r.parent? known = some parent) :
    (∃ q, r.parentId = some q ∧ q.toText = parent) ∨
      ∃ named, r.namedPlaces.find? (fun p => known.contains p.id) = some named ∧ named.id = parent := by
  rw [parent?_eq, targets_eq, segmentParent?_eq, List.find?_map] at h
  simp only [Option.or_eq_some_iff, Option.map_eq_some_iff, Option.filter_eq_some_iff,
    Option.map_eq_none_iff] at h
  rcases h with ⟨named, hfound, hid⟩ | ⟨hnone, houtright | ⟨-, ⟨named, ⟨span, hspan, rfl⟩, rfl⟩, hknown⟩⟩
  · refine .inr ⟨named, ?_, hid⟩
    rw [namedPlaces, List.find?_append, Option.or_eq_some_iff]
    exact .inl hfound
  · exact .inl houtright
  · refine .inr ⟨_, ?_, rfl⟩
    rw [namedPlaces, List.find?_append, Option.or_eq_some_iff]
    refine .inr ⟨hnone, ?_⟩
    simpa [hspan] using hknown

end SpanRecord

/-! ## The spans of a document -/

/-- The values that a document lists as its spans, if it has such a list. -/
def valuesOf? (input : String) : Option (List Json) := do
  match locateSpans (← (Json.ofText input.toList).toOption) with
  | some (.list values) => some values
  | _ => none

theorem valuesOf?_eq_some_iff {input : String} {values : List Json} :
    valuesOf? input = some values ↔ Lists input values := by
  simp only [valuesOf?, Option.bind_eq_bind, Option.bind_eq_some_iff, toOption_eq_some_iff, Lists]
  refine exists_congr fun document => and_congr_right fun _ => ?_
  split
  · next listed hlisted => simp [hlisted]
  · next hnone => simpa using hnone values

/-- The records that a document lists, if it can be read that far. -/
def recordsOf? (input : String) : Option (List SpanRecord) := do
  ((← valuesOf? input).mapM SpanRecord.ofJson).toOption

theorem recordsOf?_eq_some_iff {input : String} {records : List SpanRecord} :
    recordsOf? input = some records ↔ ∃ values, Lists input values ∧ ReadAs values records := by
  simp only [recordsOf?, Option.bind_eq_bind, Option.bind_eq_some_iff, valuesOf?_eq_some_iff,
    toOption_eq_some_iff, mapM_eq_ok_iff, ReadAs]

/-- The span comes from a record without an id of its own, and stands at that place. -/
def StandsAt (records : List SpanRecord) (spans : List Span) (s : Span) (p : SpanPlace) : Prop :=
  ∃ r, (r, s) ∈ records.zip spans ∧ r.id = none ∧ r.place? = some p

/-- What the places in a document say about its spans. -/
structure ToldApartByPlace (records : List SpanRecord) (spans : List Span) : Prop where
  /-- A span without an id of its own has the id of its place. -/
  identified : ∀ r s, (r, s) ∈ records.zip spans → r.id = none →
    ∃ p, StandsAt records spans s p ∧ s.id = p.id
  /-- Two of them have one id exactly if their places are one or differ by where the comma is. -/
  ids : ∀ s p s' p', StandsAt records spans s p → StandsAt records spans s' p' →
    (s.id = s'.id ↔ p = p' ∨ p.ReadsLike p')
  /-- A parent that is not written out is found by the first named place that has the id of a span, and
  is the span that stands there, or at a place that differs by where the comma is. -/
  parents : ∀ r s parent, (r, s) ∈ records.zip spans → s.parentId = some parent →
    (∃ q, r.parentId = some q ∧ q.toText = parent) ∨
    ∃ named, r.namedPlaces.find? (fun p => (spans.map (·.id)).contains p.id) = some named ∧
      named.id = parent ∧
      ∀ s' p', StandsAt records spans s' p' → (s'.id = parent ↔ p' = named ∨ p'.ReadsLike named)
  /-- Where no number has a comma, the comma is where it seems to be. -/
  exact : (∀ r ∈ records, ∀ p ∈ r.place?.toList ++ r.namedPlaces, ',' ∉ p.number.toList) →
    ∀ r ∈ records, ∀ r' ∈ records, ∀ p ∈ r.place?.toList ++ r.namedPlaces,
      ∀ p' ∈ r'.place?.toList ++ r'.namedPlaces, ¬p.ReadsLike p'

/-- **Places tell the spans of a document apart**, and lead to the right parents, but for places that
differ by where the comma between segment and number is. -/
theorem exists_toldApartByPlace {input : String} {spans : List Span} (hok : parseTrace input = .ok spans) :
    ∃ records, recordsOf? input = some records ∧ ToldApartByPlace records spans := by
  obtain ⟨values, records, hlists, hread, hresolve⟩ := parseTrace_eq_ok_iff.mp hok
  have hyields := SpanRecord.resolve_eq_ok_iff.mp hresolve
  have hyield : ∀ r s, (r, s) ∈ records.zip spans → r.Yields (spans.map (·.id)) s :=
    fun r s hrs => (List.forall₂_iff_zip.mp hyields).2 hrs
  have hid : ∀ s p, StandsAt records spans s p → s.id = p.id := by
    rintro s p ⟨r, hrs, hnone, hplace⟩
    have hown := (hyield r s hrs).1
    rw [SpanRecord.ownId?_of_id_eq_none hnone, hplace] at hown
    exact (Option.some.inj hown).symm
  refine ⟨records, recordsOf?_eq_some_iff.mpr ⟨values, hlists, hread⟩, ?identified, ?ids, ?parents, ?exact⟩
  case identified =>
    intro r s hrs hnone
    have hown := (hyield r s hrs).1
    rw [SpanRecord.ownId?_of_id_eq_none hnone, Option.map_eq_some_iff] at hown
    obtain ⟨p, hplace, hp⟩ := hown
    exact ⟨p, ⟨r, hrs, hnone, hplace⟩, hp.symm⟩
  case ids =>
    intro s p s' p' hs hs'
    rw [hid s p hs, hid s' p' hs']
    exact SpanPlace.id_eq_id_iff
  case parents =>
    intro r s parent hrs hparent
    obtain ⟨-, index, hspan⟩ := hyield r s hrs
    rw [SpanRecord.parentId_of_toSpan_ok hspan] at hparent
    refine (SpanRecord.parent?_eq_some_cases hparent).imp_right ?_
    rintro ⟨named, hnamed, rfl⟩
    refine ⟨named, hnamed, rfl, ?_⟩
    intro s' p' hs'
    rw [hid s' p' hs']
    exact SpanPlace.id_eq_id_iff
  case exact =>
    intro hcommas r hr r' hr' p hp p' hp'
    exact SpanPlace.not_readsLike (hcommas r hr p hp) (hcommas r' hr' p' hp')

/-- A call across two segments, given by a reference. -/
def twoSegments : String :=
  "[\x7b\"segmentId\":\"a\",\"spanId\":1,\"startTime\":0,\"endTime\":9\x7d," ++
  "\x7b\"segmentId\":\"b\",\"spanId\":0,\"startTime\":1,\"endTime\":2,\"refs\":" ++
  "[\x7b\"parentSegmentId\":\"a\",\"parentSpanId\":1\x7d]\x7d]"

def twoSegmentsSpans : List Span := [
  { id := "a,1", parentId := none, startTime := 0, endTime := 9, label := "", actor := "" },
  { id := "b,0", parentId := some "a,1", startTime := 1, endTime := 2, label := "", actor := "",
    refs := [{ parentSegmentId := some "a", parentSpanId := some "1" }] }]

theorem twoSegments_told_apart :
    parseTrace twoSegments = .ok twoSegmentsSpans ∧
      ∃ records, recordsOf? twoSegments = some records ∧ ToldApartByPlace records twoSegmentsSpans := by
  have hok : parseTrace twoSegments = .ok twoSegmentsSpans :=
    eq_ok_of_toOption_eq_some (by decide +kernel)
  exact ⟨hok, exists_toldApartByPlace hok⟩

/-- Two spans that differ in both parts of their places: number `c` of segment `a,b`, and number `b,c` of
segment `a`. -/
def commaPlaces : String :=
  "[\x7b\"segmentId\":\"a,b\",\"spanId\":\"c\",\"startTime\":0,\"endTime\":0\x7d," ++
  "\x7b\"segmentId\":\"a\",\"spanId\":\"b,c\",\"startTime\":0,\"endTime\":0\x7d]"

/-- Both get one id, though neither has an id of its own. -/
theorem commaPlaces_not_told_apart :
    (parseTrace commaPlaces).toOption.map (·.map (·.id)) = some ["a,b,c", "a,b,c"] ∧
      (recordsOf? commaPlaces).map (·.map fun r => (r.id.isNone, r.place?)) =
        some [(true, some ⟨some "a,b", "c"⟩), (true, some ⟨some "a", "b,c"⟩)] := by
  decide +kernel

end Waterfall
