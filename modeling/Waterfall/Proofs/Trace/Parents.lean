import Waterfall.Proofs.Decode.Records
import Waterfall.Proofs.Trace.FirstDefect
import Waterfall.Trace.Document

/-!
# Parents of the spans of a document

A record can name its parent in three ways, and a reference counts only if the document has the span it
points to. `ParentResolved` says which way wins, from the ids of the document alone and without the
order in which the ways are tried. Nothing in it depends on where a record stands: an accepted document
with its records in another order gives the same spans in that order.

Where no record gives a parent outright, every parent found is a span of the document, so that the
checks of a trace cannot find one missing.
-/

namespace Waterfall

/-! ## From a document to its records -/

/-- The text is a document that lists these values as its spans. -/
def Lists (input : String) (values : List Json) : Prop :=
  ∃ document, Json.ofText input.toList = .ok document ∧ locateSpans document = some (.list values)

/-- A text lists one list of values at most. -/
theorem Lists.unique {input : String} {values values' : List Json} (h : Lists input values)
    (h' : Lists input values') : values = values' := by
  obtain ⟨document, htext, hlocated⟩ := h
  obtain ⟨document', htext', hlocated'⟩ := h'
  obtain rfl := Except.ok.inj (htext.symm.trans htext')
  exact Json.list.inj (Option.some.inj (hlocated.symm.trans hlocated'))

/-- The values are read as these records, one by one. -/
def ReadAs (values : List Json) (records : List SpanRecord) : Prop :=
  List.Forall₂ (fun v r => SpanRecord.ofJson v = .ok r) values records

theorem list_eq_ok_iff {α : Type} {read : JsonDecoder α} {v : Json} {items : List α} :
    JsonDecoder.list read v = .ok items ↔
      ∃ values, v = .list values ∧ List.Forall₂ (fun v a => read v = .ok a) values items := by
  cases v with
  | list values => simp [JsonDecoder.list, ← mapM_eq_ok_iff]
  | _ => simp [JsonDecoder.list, JsonDecoder.wrong]

/-- What a document has to be for its spans to come out. -/
theorem parseTrace_eq_ok_iff {input : String} {spans : List Span} :
    parseTrace input = .ok spans ↔
      ∃ values records, Lists input values ∧ ReadAs values records ∧
        SpanRecord.resolve records = .ok spans := by
  constructor
  · intro hok
    simp only [parseTrace, spansOfDocument] at hok
    split at hok
    · simp at hok
    · next document htext =>
      split at hok
      · simp at hok
      · next located hlocated =>
        split at hok
        · simp at hok
        · next records hrecords =>
          obtain ⟨values, rfl, hread⟩ := list_eq_ok_iff.mp hrecords
          exact ⟨values, records, ⟨document, htext, hlocated⟩, hread, hok⟩
  · rintro ⟨values, records, ⟨document, htext, hlocated⟩, hread, hok⟩
    have hrecords := list_eq_ok_iff.mpr ⟨values, rfl, hread⟩
    simp only [parseTrace, spansOfDocument, htext, hlocated, hrecords, hok]

/-! ## From records to spans -/

namespace SpanRecord

/-- The ids that the references of a record point to, in order. -/
def targets (r : SpanRecord) : List String := r.refs.filterMap ReferenceRecord.target?

/-- The id of the parent given by its number in the record's own segment. -/
def segmentParent? (r : SpanRecord) : Option String :=
  r.parentSpanId.map (segmentSpanId r.segmentId)

/-- The record is read as that span, among spans with the given ids. -/
def Yields (known : List String) (r : SpanRecord) (s : Span) : Prop :=
  r.ownId? = some s.id ∧ ∃ index, r.toSpan known index s.id = .ok s

section ToSpan

variable {known : List String} {index : Nat} {r : SpanRecord} {id : String} {s : Span}

theorem id_of_toSpan_ok (h : r.toSpan known index id = .ok s) : s.id = id := by
  unfold toSpan at h
  split at h
  · simp at h
  · split at h
    · simp at h
    · obtain rfl := Except.ok.inj h
      rfl

theorem parentId_of_toSpan_ok (h : r.toSpan known index id = .ok s) :
    s.parentId = r.parent? known := by
  unfold toSpan at h
  split at h
  · simp at h
  · split at h
    · simp at h
    · obtain rfl := Except.ok.inj h
      rfl

/-- The place of a record shows in complaints only. -/
theorem toSpan_ok_of_toSpan_ok (h : r.toSpan known index id = .ok s) (other : Nat) :
    r.toSpan known other id = .ok s := by
  unfold toSpan at h ⊢
  split at h
  · simp at h
  · split at h
    · simp at h
    · exact h

/-- Of the known ids only their presence counts, not their order. -/
theorem toSpan_congr {known' : List String} (hknown : ∀ x, x ∈ known ↔ x ∈ known') :
    r.toSpan known index id = r.toSpan known' index id := by
  have hcontains : ∀ x, known.contains x = known'.contains x := by
    intro x
    simp [List.contains_eq_mem, hknown]
  have hparent : r.parent? known = r.parent? known' := by
    simp only [parent?, hcontains]
  simp only [toSpan, hparent]

end ToSpan

theorem ownIds_eq_ok_iff {index : Nat} {records : List SpanRecord} {ids : List String} :
    ownIds index records = .ok ids ↔
      List.Forall₂ (fun r id => r.ownId? = some id) records ids := by
  induction records generalizing index ids with
  | nil => simp [ownIds, eq_comm]
  | cons r rest ih =>
    rw [List.forall₂_cons_left_iff]
    cases hid : r.ownId? with
    | none => simp [ownIds, hid]
    | some id =>
      simp only [ownIds, hid, map_eq_ok_iff, ih, Option.some.injEq]
      constructor
      · rintro ⟨tail, htail, rfl⟩
        exact ⟨id, tail, rfl, htail, rfl⟩
      · rintro ⟨_, tail, rfl, htail, rfl⟩
        exact ⟨tail, htail, rfl⟩

theorem toSpans_eq_ok_iff {known : List String} {index : Nat} {pairs : List (SpanRecord × String)}
    {spans : List Span} :
    toSpans known index pairs = .ok spans ↔
      List.Forall₂ (fun p s => ∃ index, p.1.toSpan known index p.2 = .ok s) pairs spans := by
  induction pairs generalizing index spans with
  | nil => simp [toSpans, eq_comm]
  | cons p rest ih =>
    obtain ⟨r, id⟩ := p
    rw [List.forall₂_cons_left_iff]
    constructor
    · intro h
      cases hspan : r.toSpan known index id with
      | error e => simp [toSpans, hspan] at h
      | ok s =>
        simp only [toSpans, hspan, map_eq_ok_iff] at h
        obtain ⟨tail, htail, rfl⟩ := h
        exact ⟨s, tail, ⟨index, hspan⟩, ih.mp htail, rfl⟩
    · rintro ⟨s, tail, ⟨other, hspan⟩, htail, rfl⟩
      have hhere := toSpan_ok_of_toSpan_ok hspan index
      simp only [toSpans, hhere, map_eq_ok_iff]
      exact ⟨tail, ih.mpr htail, rfl⟩

/-- The ids that records have of their own are those of their spans. -/
theorem forall₂_zip_iff {known : List String} {records : List SpanRecord} {ids : List String}
    (hids : List.Forall₂ (fun r id => r.ownId? = some id) records ids) {spans : List Span} :
    List.Forall₂ (fun p s => ∃ index, p.1.toSpan known index p.2 = .ok s) (records.zip ids) spans ↔
      ids = spans.map (·.id) ∧ List.Forall₂ (Yields known) records spans := by
  induction hids generalizing spans with
  | nil => cases spans <;> simp
  | @cons r id rest tail hid _ ih =>
    rw [List.zip_cons_cons, List.forall₂_cons_left_iff, List.forall₂_cons_left_iff]
    constructor
    · rintro ⟨s, spans', ⟨index, hspan⟩, hrest, rfl⟩
      obtain ⟨rfl, hyields⟩ := ih.mp hrest
      obtain rfl := id_of_toSpan_ok hspan
      exact ⟨rfl, s, spans', ⟨hid, index, hspan⟩, hyields, rfl⟩
    · rintro ⟨heq, s, spans', ⟨hown, index, hspan⟩, hyields, rfl⟩
      obtain ⟨rfl, rfl⟩ := List.cons.inj heq
      exact ⟨s, spans', ⟨index, hspan⟩, ih.mpr ⟨rfl, hyields⟩, rfl⟩

/-- Records are resolved one by one, the ids of all of them being known from the start. -/
theorem resolve_eq_ok_iff {records : List SpanRecord} {spans : List Span} :
    resolve records = .ok spans ↔ List.Forall₂ (Yields (spans.map (·.id))) records spans := by
  constructor
  · intro h
    unfold resolve at h
    split at h
    · simp at h
    · next ids hids =>
      obtain ⟨rfl, hyields⟩ :=
        (forall₂_zip_iff (ownIds_eq_ok_iff.mp hids)).mp (toSpans_eq_ok_iff.mp h)
      exact hyields
  · intro h
    have hids : List.Forall₂ (fun r id => r.ownId? = some id) records (spans.map (·.id)) :=
      List.forall₂_map_right_iff.mpr (h.imp fun _ _ hys => hys.1)
    simp only [resolve, ownIds_eq_ok_iff.mpr hids]
    exact toSpans_eq_ok_iff.mpr ((forall₂_zip_iff hids).mpr ⟨rfl, h⟩)

/-- Which span a record yields depends on which ids are known, not on their order. -/
theorem Yields.congr {known known' : List String} (hknown : ∀ x, x ∈ known ↔ x ∈ known')
    {r : SpanRecord} {s : Span} (h : r.Yields known s) : r.Yields known' s := by
  obtain ⟨hid, index, hspan⟩ := h
  exact ⟨hid, index, by rw [← toSpan_congr hknown]; exact hspan⟩

end SpanRecord

/-- Two correspondences in a row are one. -/
theorem exists_forall₂_iff {α β γ : Type} {R : α → β → Prop} {S : β → γ → Prop} {xs : List α}
    {zs : List γ} :
    (∃ ys, List.Forall₂ R xs ys ∧ List.Forall₂ S ys zs) ↔
      List.Forall₂ (fun x z => ∃ y, R x y ∧ S y z) xs zs := by
  constructor
  · rintro ⟨ys, hxy, hyz⟩
    induction hxy generalizing zs with
    | nil =>
      rw [List.forall₂_nil_left_iff.mp hyz]
      exact .nil
    | cons hx _ ih =>
      obtain ⟨z, tail, hz, htail, rfl⟩ := List.forall₂_cons_left_iff.mp hyz
      exact .cons ⟨_, hx, hz⟩ (ih htail)
  · intro h
    induction h with
    | nil => exact ⟨[], .nil, .nil⟩
    | cons hxz _ ih =>
      obtain ⟨y, hx, hz⟩ := hxz
      obtain ⟨ys, hxy, hyz⟩ := ih
      exact ⟨y :: ys, .cons hx hxy, .cons hz hyz⟩

/-- Each listed value gives its span by itself, once the ids of all spans are known. -/
theorem parseTrace_eq_ok_iff_forall₂ {input : String} {spans : List Span} :
    parseTrace input = .ok spans ↔
      ∃ values, Lists input values ∧ List.Forall₂
        (fun v s => ∃ r, SpanRecord.ofJson v = .ok r ∧ r.Yields (spans.map (·.id)) s) values spans := by
  rw [parseTrace_eq_ok_iff]
  simp only [← exists_forall₂_iff, SpanRecord.resolve_eq_ok_iff, exists_and_left, ReadAs]

/-! ## Which parent wins -/

/-- The parent of a record among spans with the given ids. -/
structure ParentResolved (ids : List String) (r : SpanRecord) (parent : Option String) : Prop where
  /-- The first reference to a span of the document wins over everything else. -/
  of_reference : ∀ before target after, r.targets = before ++ target :: after →
    (∀ t ∈ before, t ∉ ids) → target ∈ ids → parent = some target
  /-- Without one, a parent given outright is kept as it is written. -/
  of_parentId : (∀ t ∈ r.targets, t ∉ ids) → ∀ p, r.parentId = some p → parent = some p.toText
  /-- Without either, the parent in the same segment counts exactly if the document has it. -/
  of_segment : (∀ t ∈ r.targets, t ∉ ids) → r.parentId = none →
    ∀ p, parent = some p ↔ r.segmentParent? = some p ∧ p ∈ ids
  mem_or_verbatim : ∀ p, parent = some p → p ∈ ids ∨ ∃ q, r.parentId = some q ∧ q.toText = p

/-- The three ways to a parent, tried one after the other. -/
theorem SpanRecord.parent?_eq (known : List String) (r : SpanRecord) :
    r.parent? known = (r.targets.find? (known.contains ·)).or
      ((r.parentId.map Scalar.toText).or (r.segmentParent?.filter (known.contains ·))) := by
  unfold parent? targets segmentParent?
  split
  · next target htarget => simp only [htarget, Option.some_or]
  · next hforeign =>
    rw [hforeign, Option.none_or]
    cases r.parentId with
    | some p => rfl
    | none => cases r.parentSpanId <;> rfl

theorem parentResolved_parent? (ids : List String) (r : SpanRecord) :
    ParentResolved ids r (r.parent? ids) := by
  have hnone : (∀ t ∈ r.targets, t ∉ ids) → r.targets.find? (ids.contains ·) = none := by
    intro h
    simpa [List.find?_eq_none] using h
  rw [SpanRecord.parent?_eq]
  refine ⟨?_, ?_, ?_, ?_⟩
  · intro before target after htargets hbefore htarget
    have hfirst : r.targets.find? (ids.contains ·) = some target := by
      rw [List.find?_eq_some_iff_append]
      exact ⟨by simpa using htarget, before, after, htargets, by simpa using hbefore⟩
    rw [hfirst, Option.some_or]
  · intro hforeign p hp
    rw [hnone hforeign, hp]
    rfl
  · intro hforeign hp p
    rw [hnone hforeign, hp]
    simp [Option.filter_eq_some_iff]
  · intro p hp
    simp only [Option.or_eq_some_iff, Option.map_eq_some_iff, Option.filter_eq_some_iff] at hp
    rcases hp with htarget | ⟨-, hparent | ⟨-, -, hknown⟩⟩
    · exact Or.inl (by simpa using List.find?_some htarget)
    · exact Or.inr hparent
    · exact Or.inl (by simpa using hknown)

namespace SpanRecord

/-- Resolved records have the parents that win. -/
theorem parentsResolved_of_resolve_ok {records : List SpanRecord} {spans : List Span}
    (h : resolve records = .ok spans) :
    List.Forall₂ (fun r s => r.ownId? = some s.id ∧ ParentResolved (spans.map (·.id)) r s.parentId)
      records spans := by
  refine (resolve_eq_ok_iff.mp h).imp ?_
  rintro r s ⟨hid, index, hspan⟩
  rw [parentId_of_toSpan_ok hspan]
  exact ⟨hid, parentResolved_parent? _ r⟩

end SpanRecord

/-! ## Records in another order -/

theorem exists_of_forall₂_of_mem {α β : Type} {R : α → β → Prop} {xs : List α} {ys : List β}
    (h : List.Forall₂ R xs ys) {y : β} (hy : y ∈ ys) : ∃ x ∈ xs, R x y := by
  induction h with
  | nil => simp at hy
  | @cons x z rest _ hxz _ ih =>
    rcases List.mem_cons.mp hy with rfl | hrest
    · exact ⟨x, by simp, hxz⟩
    · obtain ⟨x', hx', hR⟩ := ih hrest
      exact ⟨x', by simp [hx'], hR⟩

/-- Lists that correspond still do when the first is reordered and the second follows it. -/
theorem exists_forall₂_of_perm {α β : Type} {R : α → β → Prop} {xs xs' : List α} {ys : List β}
    (h : List.Forall₂ R xs ys) (hperm : xs.Perm xs') :
    ∃ ys', List.Forall₂ R xs' ys' ∧ (xs.zip ys).Perm (xs'.zip ys') := by
  induction hperm generalizing ys with
  | nil => exact ⟨ys, h, .refl _⟩
  | cons x _ ih =>
    obtain ⟨y, rest, hxy, hrest, rfl⟩ := List.forall₂_cons_left_iff.mp h
    obtain ⟨rest', hrest', hp⟩ := ih hrest
    exact ⟨y :: rest', .cons hxy hrest', .cons (x, y) hp⟩
  | swap x x' l =>
    obtain ⟨y', tail, hx', htail, rfl⟩ := List.forall₂_cons_left_iff.mp h
    obtain ⟨y, rest, hx, hrest, rfl⟩ := List.forall₂_cons_left_iff.mp htail
    exact ⟨y :: y' :: rest, .cons hx (.cons hx' hrest), .swap (x, y) (x', y') _⟩
  | trans _ _ ih ih' =>
    obtain ⟨mid, hmid, hp⟩ := ih h
    obtain ⟨ys', hys', hp'⟩ := ih' hmid
    exact ⟨ys', hys', hp.trans hp'⟩

/-- The second of two lists of one length is reordered as their pairs are. -/
theorem perm_of_perm_zip {α β : Type} {R : α → β → Prop} {xs xs' : List α} {ys ys' : List β}
    (h : List.Forall₂ R xs ys) (h' : List.Forall₂ R xs' ys')
    (hperm : (xs.zip ys).Perm (xs'.zip ys')) : ys.Perm ys' := by
  have hsnd := hperm.map Prod.snd
  rwa [List.map_snd_zip h.length_eq.ge, List.map_snd_zip h'.length_eq.ge] at hsnd

/-- Spans follow their sources into another order, where each depends on its source and on which ids
there are. -/
theorem exists_forall₂_ids_of_perm {α : Type} {R : List String → α → Span → Prop}
    (hcongr : ∀ known known' a s, (∀ x, x ∈ known ↔ x ∈ known') → R known a s → R known' a s)
    {xs xs' : List α} {spans : List Span} (h : List.Forall₂ (R (spans.map (·.id))) xs spans)
    (hperm : xs.Perm xs') :
    ∃ spans', List.Forall₂ (R (spans'.map (·.id))) xs' spans' ∧
      (xs.zip spans).Perm (xs'.zip spans') := by
  obtain ⟨spans', h', hzip⟩ := exists_forall₂_of_perm h hperm
  -- The known ids are still those of the old order; the new one has the same ones.
  have hids := (perm_of_perm_zip h h' hzip).map (·.id)
  exact ⟨spans', h'.imp fun a s => hcongr _ _ a s fun _ => hids.mem_iff, hzip⟩

/-- The spans of a list of records in another order: the same, each still that of its record. -/
theorem SpanRecord.exists_resolve_ok_of_perm {records records' : List SpanRecord} {spans : List Span}
    (h : resolve records = .ok spans) (hperm : records.Perm records') :
    ∃ spans', resolve records' = .ok spans' ∧ (records.zip spans).Perm (records'.zip spans') := by
  obtain ⟨spans', hyields', hzip⟩ := exists_forall₂_ids_of_perm (R := Yields)
    (fun _ _ _ _ hknown => Yields.congr hknown) (resolve_eq_ok_iff.mp h) hperm
  exact ⟨spans', resolve_eq_ok_iff.mpr hyields', hzip⟩

/-- The spans of a document that lists its values in another order. -/
theorem exists_parseTrace_ok_of_perm {input input' : String} {values values' : List Json}
    {spans : List Span} (hok : parseTrace input = .ok spans) (hlists : Lists input values)
    (hlists' : Lists input' values') (hperm : values.Perm values') :
    ∃ spans', parseTrace input' = .ok spans' ∧ (values.zip spans).Perm (values'.zip spans') := by
  obtain ⟨values₁, hlists₁, hyields⟩ := parseTrace_eq_ok_iff_forall₂.mp hok
  obtain rfl := hlists.unique hlists₁
  have hcongr : ∀ known known' v s, (∀ x, x ∈ known ↔ x ∈ known') →
      (∃ r, SpanRecord.ofJson v = .ok r ∧ r.Yields known s) →
      ∃ r, SpanRecord.ofJson v = .ok r ∧ r.Yields known' s := by
    rintro known known' v s hknown ⟨r, hr, hyield⟩
    exact ⟨r, hr, hyield.congr hknown⟩
  obtain ⟨spans', hyields', hzip⟩ := exists_forall₂_ids_of_perm hcongr hyields hperm
  exact ⟨spans', parseTrace_eq_ok_iff_forall₂.mpr ⟨values', hlists', hyields'⟩, hzip⟩

/-! ## Main statement -/

/-- How the spans of an accepted document follow from the records it lists. -/
structure ResolvedFrom (input : String) (values : List Json) (records : List SpanRecord)
    (spans : List Span) : Prop where
  lists : Lists input values
  read : ReadAs values records
  parents : List.Forall₂ (fun r s => r.ownId? = some s.id ∧
    ParentResolved (spans.map (·.id)) r s.parentId) records spans
  /-- Records in another order give the same spans, each record its own. -/
  reordered : ∀ records', records.Perm records' → ∃ spans', SpanRecord.resolve records' = .ok spans' ∧
    (records.zip spans).Perm (records'.zip spans')
  relisted : ∀ input' values', Lists input' values' → values.Perm values' →
    ∃ spans', parseTrace input' = .ok spans' ∧ (values.zip spans).Perm (values'.zip spans')
  none_missing : (∀ r ∈ records, r.parentId = none) →
    ∀ policy id parent, validate spans policy ≠ .error (.danglingParent id parent)

/-- **Parents of an accepted document.** Each span has the id its record gives it and the parent that
wins among the ways the record names one: the first reference to a span of the document, else the parent
given outright as it is written, else the parent in the same segment if the document has it. Another
order of the document gives the same spans in that order. Where no parent is given outright, none is
found missing. -/
theorem exists_resolvedFrom_of_parseTrace_eq_ok {input : String} {spans : List Span}
    (hok : parseTrace input = .ok spans) :
    ∃ values records, ResolvedFrom input values records spans := by
  obtain ⟨values, records, hlists, hread, hresolve⟩ := parseTrace_eq_ok_iff.mp hok
  have hparents := SpanRecord.parentsResolved_of_resolve_ok hresolve
  refine ⟨values, records, hlists, hread, hparents,
    fun _ => SpanRecord.exists_resolve_ok_of_perm hresolve,
    fun _ _ hlists' => exists_parseTrace_ok_of_perm hok hlists hlists', ?_⟩
  intro houtright policy id parent hdangling
  obtain ⟨s, hs, hp, hmissing⟩ := exists_missing_of_danglingParent hdangling
  obtain ⟨r, hr, -, hresolved⟩ := exists_of_forall₂_of_mem hparents hs
  rcases hresolved.mem_or_verbatim parent hp with hmem | ⟨q, hq, -⟩
  · exact hmissing hmem
  · simp [houtright r hr] at hq

/-- A consumer listed before its producer: its first reference leads nowhere, its second to the
producer, and the parent given outright loses to that. -/
def forwardReference : String :=
  "[\x7b\"spanId\":0,\"segmentId\":\"t\",\"parentId\":\"zz\",\"startTime\":1,\"endTime\":2,\"refs\":" ++
  "[\x7b\"parentSpanId\":1\x7d,\x7b\"parentSegmentId\":\"s\",\"parentSpanId\":1\x7d]\x7d," ++
  "\x7b\"spanId\":1,\"segmentId\":\"s\",\"startTime\":0,\"endTime\":9\x7d]"

def forwardSpans : List Span := [
  { id := "t,0", parentId := some "s,1", startTime := 1, endTime := 2, label := "", actor := "",
    refs := [{ parentSpanId := some "1" }, { parentSegmentId := some "s", parentSpanId := some "1" }] },
  { id := "s,1", parentId := none, startTime := 0, endTime := 9, label := "", actor := "" }]

theorem forwardReference_resolved :
    parseTrace forwardReference = .ok forwardSpans ∧
    ∃ values records, ResolvedFrom forwardReference values records forwardSpans := by
  have hok : parseTrace forwardReference = .ok forwardSpans :=
    eq_ok_of_toOption_eq_some (by decide +kernel)
  exact ⟨hok, exists_resolvedFrom_of_parseTrace_eq_ok hok⟩

end Waterfall
