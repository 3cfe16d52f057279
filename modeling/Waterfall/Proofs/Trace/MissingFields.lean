import Waterfall.Proofs.Trace.FirstFailure
import Waterfall.Proofs.Trace.Milliseconds
import Waterfall.Proofs.Trace.Parents

/-!
# Records that lack a field

A record needs an identity, by an id of its own or by its number in a segment, and two times that can be
read. Records that have all of these are resolved, each to the span in its place of the list. Otherwise
the error names one record and one field (`FirstMissing`): the first record without an identity, however
many times are missing before it, and only then the first record without two times.

Both passes over the records, for ids and for times, are passes that stop at the first failure.
-/

namespace Waterfall

/-! ## What a record needs -/

namespace SpanRecord

/-- The record says which span it is. -/
def HasIdentity (r : SpanRecord) : Prop := r.id ≠ none ∨ r.spanId ≠ none

end SpanRecord

/-- A time is given and can be read. -/
def Readable (time : Option Scalar) : Prop := ∃ x n, time = some x ∧ x.Tells n

namespace SpanRecord

/-- Both times can be read. -/
def HasTimes (r : SpanRecord) : Prop := Readable r.startTime ∧ Readable r.endTime

/-- The error for a list of records some of which lack a field. -/
inductive FirstMissing (records : List SpanRecord) : TraceError → Prop
  | spanId {index : Nat} {r : SpanRecord} :
      records[index]? = some r → ¬ r.HasIdentity →
      (∀ i < index, ∀ q, records[i]? = some q → q.HasIdentity) →
      FirstMissing records (.missingField index .spanId)
  | startTime {index : Nat} {r : SpanRecord} :
      (∀ q ∈ records, q.HasIdentity) → records[index]? = some r → ¬ Readable r.startTime →
      (∀ i < index, ∀ q, records[i]? = some q → q.HasTimes) →
      FirstMissing records (.missingField index .startTime)
  | endTime {index : Nat} {r : SpanRecord} :
      (∀ q ∈ records, q.HasIdentity) → records[index]? = some r → Readable r.startTime →
      ¬ Readable r.endTime → (∀ i < index, ∀ q, records[i]? = some q → q.HasTimes) →
      FirstMissing records (.missingField index .endTime)

/-- The span is the one its record identifies, with the times the record tells. -/
structure Identifies (r : SpanRecord) (s : Span) : Prop where
  id : r.ownId? = some s.id
  startTime : ∃ x, r.startTime = some x ∧ x.Tells s.startTime
  endTime : ∃ x, r.endTime = some x ∧ x.Tells s.endTime

end SpanRecord

/-! ## One record -/

theorem bind_toMillis?_eq_some_iff {time : Option Scalar} {n : Int} :
    time.bind Scalar.toMillis? = some n ↔ ∃ x, time = some x ∧ x.Tells n := by
  rw [Option.bind_eq_some_iff]
  simp only [Scalar.toMillis?_eq_some_iff]

theorem bind_toMillis?_eq_none_iff {time : Option Scalar} :
    time.bind Scalar.toMillis? = none ↔ ¬ Readable time := by
  rw [Option.eq_none_iff_forall_ne_some]
  simp only [ne_eq, bind_toMillis?_eq_some_iff, Readable]
  constructor
  · rintro h ⟨x, n, hx, hn⟩
    exact h n ⟨x, hx, hn⟩
  · rintro h n ⟨x, hx, hn⟩
    exact h ⟨x, n, hx, hn⟩

namespace SpanRecord

theorem ownId?_eq_none_iff {r : SpanRecord} : r.ownId? = none ↔ ¬ r.HasIdentity := by
  unfold ownId? HasIdentity
  cases hid : r.id <;> cases hspan : r.spanId <;> simp

theorem exists_ownId?_iff {r : SpanRecord} : (∃ id, r.ownId? = some id) ↔ r.HasIdentity := by
  rw [← not_iff_not, ← ownId?_eq_none_iff, Option.eq_none_iff_forall_ne_some, not_exists]

variable {known : List String} {index : Nat} {r : SpanRecord} {id : String}

theorem toSpan_eq_error_iff {e : TraceError} :
    r.toSpan known index id = .error e ↔
      (¬ Readable r.startTime ∧ e = .missingField index .startTime) ∨
        (Readable r.startTime ∧ ¬ Readable r.endTime ∧ e = .missingField index .endTime) := by
  cases hstart : r.startTime.bind Scalar.toMillis? with
  | none =>
    have hunread := bind_toMillis?_eq_none_iff.mp hstart
    simp only [toSpan, hstart, Except.error.injEq, hunread, not_false_eq_true, true_and, false_and,
      or_false]
    exact eq_comm
  | some start =>
    have hread : Readable r.startTime := by
      obtain ⟨x, hx, htells⟩ := bind_toMillis?_eq_some_iff.mp hstart
      exact ⟨x, start, hx, htells⟩
    cases hend : r.endTime.bind Scalar.toMillis? with
    | none =>
      have hunread := bind_toMillis?_eq_none_iff.mp hend
      simp only [toSpan, hstart, hend, Except.error.injEq, hread, not_true_eq_false, hunread,
        not_false_eq_true, true_and, false_and, false_or]
      exact eq_comm
    | some stop =>
      have hreadEnd : Readable r.endTime := by
        obtain ⟨x, hx, htells⟩ := bind_toMillis?_eq_some_iff.mp hend
        exact ⟨x, stop, hx, htells⟩
      simp [toSpan, hstart, hend, hread, hreadEnd]

theorem times_of_toSpan_ok {s : Span} (h : r.toSpan known index id = .ok s) :
    (∃ x, r.startTime = some x ∧ x.Tells s.startTime) ∧
      ∃ x, r.endTime = some x ∧ x.Tells s.endTime := by
  unfold toSpan at h
  split at h
  · simp at h
  · next start hstart =>
    split at h
    · simp at h
    · next stop hend =>
      obtain rfl := Except.ok.inj h
      exact ⟨bind_toMillis?_eq_some_iff.mp hstart, bind_toMillis?_eq_some_iff.mp hend⟩

/-- A record becomes a span exactly if both its times can be read. -/
theorem exists_toSpan_ok_iff : (∃ s, r.toSpan known index id = .ok s) ↔ r.HasTimes := by
  constructor
  · rintro ⟨s, h⟩
    obtain ⟨⟨x, hx, hstart⟩, y, hy, hend⟩ := times_of_toSpan_ok h
    exact ⟨⟨x, _, hx, hstart⟩, y, _, hy, hend⟩
  · rintro ⟨hstart, hend⟩
    cases h : r.toSpan known index id with
    | ok s => exact ⟨s, rfl⟩
    | error e =>
      rcases toSpan_eq_error_iff.mp h with ⟨hnot, -⟩ | ⟨-, hnot, -⟩
      · exact absurd hstart hnot
      · exact absurd hend hnot

/-! ## All records -/

/-- The id of a record, or the complaint that it has none. -/
def idAt (index : Nat) (r : SpanRecord) : Except TraceError String :=
  match r.ownId? with
  | none => .error (.missingField index .spanId)
  | some id => .ok id

theorem ownIds_eq_traverseFrom (index : Nat) (records : List SpanRecord) :
    ownIds index records = traverseFrom idAt index records := by
  induction records generalizing index with
  | nil => rfl
  | cons r rest ih => cases h : r.ownId? <;> simp [ownIds, traverseFrom, idAt, h, ih]

theorem toSpans_eq_traverseFrom (known : List String) (index : Nat)
    (pairs : List (SpanRecord × String)) :
    toSpans known index pairs = traverseFrom (fun i p => p.1.toSpan known i p.2) index pairs := by
  induction pairs generalizing index with
  | nil => rfl
  | cons p rest ih =>
    simp only [toSpans, traverseFrom, ih]
    cases p.1.toSpan known index p.2 <;> rfl

theorem idAt_eq_error_iff {e : TraceError} :
    idAt index r = .error e ↔ ¬ r.HasIdentity ∧ e = .missingField index .spanId := by
  rw [← ownId?_eq_none_iff, idAt]
  cases r.ownId? with
  | none => simp [eq_comm]
  | some id => simp

theorem exists_idAt_ok_iff : (∃ id, idAt index r = .ok id) ↔ r.HasIdentity := by
  rw [← exists_ownId?_iff, idAt]
  cases r.ownId? <;> simp

theorem ownIds_eq_error_iff {records : List SpanRecord} {e : TraceError} :
    ownIds 0 records = .error e ↔
      ∃ i r, records[i]? = some r ∧ ¬ r.HasIdentity ∧ e = .missingField i .spanId ∧
        ∀ j < i, ∀ q, records[j]? = some q → q.HasIdentity := by
  simp only [ownIds_eq_traverseFrom, traverseFrom_eq_error_iff, Nat.zero_add, idAt_eq_error_iff,
    exists_idAt_ok_iff, and_assoc]

/-- All ids are found exactly if all records have an identity. -/
theorem exists_ownIds_ok_iff {records : List SpanRecord} :
    (∃ ids, ownIds 0 records = .ok ids) ↔ ∀ r ∈ records, r.HasIdentity := by
  constructor
  · rintro ⟨ids, hids⟩ r hr
    obtain ⟨i, hi⟩ := List.getElem?_of_mem hr
    have hget := (List.forall₂_iff_get.mp (ownIds_eq_ok_iff.mp hids)).2 i
    obtain ⟨hlt, rfl⟩ := List.getElem?_eq_some_iff.mp hi
    have hlen := length_ownIds hids
    exact exists_ownId?_iff.mp ⟨_, hget hlt (by omega)⟩
  · intro hall
    cases h : ownIds 0 records with
    | ok ids => exact ⟨ids, rfl⟩
    | error e =>
      obtain ⟨i, r, hr, hnot, -⟩ := ownIds_eq_error_iff.mp h
      exact absurd (hall r (List.mem_of_getElem? hr)) hnot

/-- With the ids of all records known, the error is that of the first record without two times. -/
theorem toSpans_eq_error_iff {known ids : List String} {records : List SpanRecord} {e : TraceError}
    (hlength : ids.length = records.length) :
    toSpans known 0 (records.zip ids) = .error e ↔
      ∃ i r, records[i]? = some r ∧
        ((¬ Readable r.startTime ∧ e = .missingField i .startTime) ∨
          (Readable r.startTime ∧ ¬ Readable r.endTime ∧ e = .missingField i .endTime)) ∧
        ∀ j < i, ∀ q, records[j]? = some q → q.HasTimes := by
  have hpair : ∀ {i : Nat} {r : SpanRecord}, records[i]? = some r → ∃ id, (records.zip ids)[i]? = some (r, id) := by
    intro i r hr
    obtain ⟨hlt, -⟩ := List.getElem?_eq_some_iff.mp hr
    refine ⟨ids[i], List.getElem?_zip_eq_some.mpr ⟨hr, ?_⟩⟩
    exact List.getElem?_eq_getElem (by omega)
  simp only [toSpans_eq_traverseFrom, traverseFrom_eq_error_iff, Nat.zero_add,
    toSpan_eq_error_iff, exists_toSpan_ok_iff]
  constructor
  · rintro ⟨i, ⟨r, id⟩, hget, hfails, hbefore⟩
    refine ⟨i, r, (List.getElem?_zip_eq_some.mp hget).1, hfails, ?_⟩
    intro j hj q hq
    obtain ⟨other, hother⟩ := hpair hq
    exact hbefore j hj _ hother
  · rintro ⟨i, r, hr, hfails, hbefore⟩
    obtain ⟨id, hget⟩ := hpair hr
    refine ⟨i, (r, id), hget, hfails, ?_⟩
    rintro j hj ⟨q, other⟩ hother
    exact hbefore j hj q (List.getElem?_zip_eq_some.mp hother).1

/-- The error for records that cannot be resolved names the first missing field. -/
theorem resolve_eq_error_iff {records : List SpanRecord} {e : TraceError} :
    resolve records = .error e ↔ FirstMissing records e := by
  constructor
  · intro h
    unfold resolve at h
    split at h
    · next e' hids =>
      obtain rfl := Except.error.inj h
      obtain ⟨i, r, hr, hnot, rfl, hbefore⟩ := ownIds_eq_error_iff.mp hids
      exact .spanId hr hnot hbefore
    · next ids hids =>
      have hidentities := exists_ownIds_ok_iff.mp ⟨ids, hids⟩
      obtain ⟨i, r, hr, hfails, hbefore⟩ := (toSpans_eq_error_iff (length_ownIds hids)).mp h
      rcases hfails with ⟨hstart, rfl⟩ | ⟨hstart, hend, rfl⟩
      · exact .startTime hidentities hr hstart hbefore
      · exact .endTime hidentities hr hstart hend hbefore
  · intro h
    -- The ids of all records are found unless it is an identity that is missing.
    have htimes : (∀ q ∈ records, q.HasIdentity) → ∀ {i : Nat} {r : SpanRecord}, records[i]? = some r →
        ((¬ Readable r.startTime ∧ e = .missingField i .startTime) ∨
          (Readable r.startTime ∧ ¬ Readable r.endTime ∧ e = .missingField i .endTime)) →
        (∀ j < i, ∀ q, records[j]? = some q → q.HasTimes) → resolve records = .error e := by
      intro hidentities i r hr hfails hbefore
      obtain ⟨ids, hids⟩ := exists_ownIds_ok_iff.mpr hidentities
      rw [resolve, hids]
      exact (toSpans_eq_error_iff (length_ownIds hids)).mpr ⟨i, r, hr, hfails, hbefore⟩
    cases h with
    | spanId hr hnot hbefore =>
      have hids := ownIds_eq_error_iff.mpr ⟨_, _, hr, hnot, rfl, hbefore⟩
      rw [resolve, hids]
    | startTime hidentities hr hstart hbefore =>
      exact htimes hidentities hr (Or.inl ⟨hstart, rfl⟩) hbefore
    | endTime hidentities hr hstart hend hbefore =>
      exact htimes hidentities hr (Or.inr ⟨hstart, hend, rfl⟩) hbefore

theorem identifies_of_yields {known : List String} {r : SpanRecord} {s : Span}
    (h : r.Yields known s) : r.Identifies s := by
  obtain ⟨hid, index, hspan⟩ := h
  obtain ⟨hstart, hend⟩ := times_of_toSpan_ok hspan
  exact ⟨hid, hstart, hend⟩

theorem Identifies.has_fields {r : SpanRecord} {s : Span} (h : r.Identifies s) :
    r.HasIdentity ∧ r.HasTimes := by
  obtain ⟨hid, ⟨x, hx, hstart⟩, y, hy, hend⟩ := h
  exact ⟨exists_ownId?_iff.mp ⟨_, hid⟩, ⟨x, _, hx, hstart⟩, y, _, hy, hend⟩

theorem not_firstMissing {records : List SpanRecord}
    (h : ∀ r ∈ records, r.HasIdentity ∧ r.HasTimes) (e : TraceError) : ¬ FirstMissing records e := by
  intro hmissing
  cases hmissing with
  | spanId hr hnot _ => exact hnot (h _ (List.mem_of_getElem? hr)).1
  | startTime _ hr hnot _ => exact hnot (h _ (List.mem_of_getElem? hr)).2.1
  | endTime _ hr _ hnot _ => exact hnot (h _ (List.mem_of_getElem? hr)).2.2

/-! ## Main statement -/

/-- **Records are resolved exactly if none lacks a field.** There are then as many spans as records, each
in the place of its record. Otherwise the error is that of the first missing field, identities before
times. -/
theorem resolve_ok_unless_field_missing (records : List SpanRecord) :
    ((∃ spans, resolve records = .ok spans) ↔ ∀ r ∈ records, r.HasIdentity ∧ r.HasTimes) ∧
    (∀ spans, resolve records = .ok spans →
      spans.length = records.length ∧ List.Forall₂ Identifies records spans) ∧
    ∀ e, resolve records = .error e ↔ FirstMissing records e := by
  have hidentifies : ∀ spans, resolve records = .ok spans →
      List.Forall₂ Identifies records spans := by
    intro spans h
    exact (resolve_eq_ok_iff.mp h).imp fun _ _ => identifies_of_yields
  refine ⟨⟨?_, ?_⟩, ?_, fun e => resolve_eq_error_iff⟩
  · rintro ⟨spans, h⟩ r hr
    obtain ⟨i, hi⟩ := List.getElem?_of_mem hr
    obtain ⟨hlt, rfl⟩ := List.getElem?_eq_some_iff.mp hi
    obtain ⟨hlength, hget⟩ := List.forall₂_iff_get.mp (hidentifies spans h)
    exact (hget i hlt (by omega)).has_fields
  · intro hall
    cases h : resolve records with
    | ok spans => exact ⟨spans, rfl⟩
    | error e => exact absurd (resolve_eq_error_iff.mp h) (not_firstMissing hall e)
  · intro spans h
    exact ⟨(hidentifies spans h).length_eq.symm, hidentifies spans h⟩

end SpanRecord

end Waterfall
