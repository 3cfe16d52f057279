import Waterfall.Proofs.Json.Printing
import Waterfall.Proofs.Json.Typed
import Waterfall.Proofs.Trace.NormalForm
import Waterfall.Trace.SpanJson

/-!
# Spans and their texts

The JSON form of a span holds everything the span does. Any text of it, however it is laid out and however
its strings are escaped, is read as the span itself (`Span.ofText_of_isTextOf`), and the compact form is
such a text (`Span.ofText_toText`). Times are whole numbers of 64 bits, so that the text holds them
exactly.
-/

namespace Waterfall

open Json

/-! ## The parts of a span -/

/-- Words that may be missing are written as null then. -/
theorem readsAs_maybe (name : String) (value : Option String) :
    ReadsAs (maybe name readText).read (.optional .text value) value := by
  cases value with
  | none => exact readsAs_optional_none readText
  | some s => exact (readsAs_text s).optional (by rintro ⟨⟩)

theorem readsAs_time {n : Int} (h : Time.fits n = true) : ReadsAs readSigned (.whole n) n := by
  obtain ⟨hleast, hmost⟩ := Time.fits_iff.mp h
  exact readsAs_whole "i64" hleast hmost

theorem SpanKind.readsAs (k : SpanKind) : ReadsAs SpanKind.reader (.text k.name) k := by
  refine readsAs_variant ?_
  cases k <;> decide

theorem Tag.readsAs (t : Tag) : ReadsAs Tag.reader t.toJson t := by
  refine (readsAs_readRecord "struct SpanTag" ?_ (t.key, t.value, ()) ?_).bind rfl
  · simp [Fields.Distinct, Fields.names, needed]
  · exact ⟨_, _, rfl, readsAs_text t.key, _, _, rfl, readsAs_text t.value, rfl⟩

theorem LogEntry.readsAs {l : LogEntry} (h : Time.fits l.time = true) :
    ReadsAs LogEntry.reader l.toJson l := by
  have hdata := readsAs_list_map fun t (_ : t ∈ l.data) => t.readsAs
  refine (readsAs_readRecord "struct SpanLog" ?_ (l.time, l.data, ()) ?_).bind rfl
  · simp [Fields.Distinct, Fields.names, needed]
  · exact ⟨_, _, rfl, readsAs_time h, _, _, rfl, hdata, rfl⟩

theorem Reference.readsAs (r : Reference) : ReadsAs Reference.reader r.toJson r := by
  refine (readsAs_readRecord "struct SpanRef" ?_
    (r.traceId, r.parentSegmentId, r.parentSpanId, r.kind, ()) ?_).bind rfl
  · simp [Fields.Distinct, Fields.names, maybe]
  · exact ⟨_, _, rfl, readsAs_maybe _ r.traceId, _, _, rfl, readsAs_maybe _ r.parentSegmentId,
      _, _, rfl, readsAs_maybe _ r.parentSpanId, _, _, rfl, readsAs_maybe _ r.kind, rfl⟩

/-! ## Spans -/

theorem Span.readsAs {s : Span} (h : s.TimesFit) : ReadsAs Span.reader s.toJson s := by
  have htags := readsAs_list_map fun t (_ : t ∈ s.tags) => t.readsAs
  have hlogs := readsAs_list_map fun l (hl : l ∈ s.logs) => LogEntry.readsAs (h.logs l hl)
  have hrefs := readsAs_list_map fun r (_ : r ∈ s.refs) => r.readsAs
  refine (readsAs_readRecord "struct Span" ?_ (s.id, s.parentId, s.startTime, s.endTime, s.label, s.actor,
    s.kind, s.component, s.peer, s.layer, s.isError, s.tags, s.logs, s.refs, ()) ?_).bind rfl
  · simp [Fields.Distinct, Fields.names, needed, maybe]
  · exact ⟨_, _, rfl, readsAs_text s.id, _, _, rfl, readsAs_maybe _ s.parentId,
      _, _, rfl, readsAs_time h.startTime, _, _, rfl, readsAs_time h.endTime,
      _, _, rfl, readsAs_text s.label, _, _, rfl, readsAs_text s.actor, _, _, rfl, s.kind.readsAs,
      _, _, rfl, readsAs_maybe _ s.component, _, _, rfl, readsAs_maybe _ s.peer,
      _, _, rfl, readsAs_maybe _ s.layer, _, _, rfl, readsAs_flag s.isError,
      _, _, rfl, htags, _, _, rfl, hlogs, _, _, rfl, hrefs, rfl⟩

/-- Whatever text of a span is read, the span comes back. -/
theorem Span.ofText_of_isTextOf {s : Span} (h : s.TimesFit) {input : String}
    (htext : IsTextOf input.toList s.toJson) : Span.ofText input = .ok s := by
  unfold Span.ofText readTextAs
  rw [readAll_of_readsAs (Span.readsAs h) htext]
  rfl

/-! ## The form without blanks -/

theorem isPlain_optional (value : Option String) : IsPlain (.optional .text value) := by
  cases value <;> trivial

theorem Tag.isPlain (t : Tag) : IsPlain t.toJson := ⟨trivial, trivial, trivial⟩

theorem LogEntry.isPlain {l : LogEntry} (h : Time.fits l.time = true) : IsPlain l.toJson :=
  ⟨withinRange_of_fits h, arePlainItems_map fun t _ => t.isPlain, trivial⟩

theorem Reference.isPlain (r : Reference) : IsPlain r.toJson :=
  ⟨isPlain_optional r.traceId, isPlain_optional r.parentSegmentId, isPlain_optional r.parentSpanId,
    isPlain_optional r.kind, trivial⟩

/-- The only numbers in the form of a span are its times. -/
theorem Span.isPlain {s : Span} (h : s.TimesFit) : IsPlain s.toJson :=
  ⟨trivial, isPlain_optional s.parentId, withinRange_of_fits h.startTime, withinRange_of_fits h.endTime,
    trivial, trivial, trivial, isPlain_optional s.component, isPlain_optional s.peer,
    isPlain_optional s.layer, trivial, arePlainItems_map fun t _ => t.isPlain,
    arePlainItems_map fun l hl => LogEntry.isPlain (h.logs l hl), arePlainItems_map fun r _ => r.isPlain,
    trivial⟩

/-- **A span is read back from what is written of it**, whatever its strings hold, however many tags,
log entries and references it carries, and wherever in the range of 64 bits its times lie. -/
theorem Span.ofText_toText {s : Span} (h : s.TimesFit) : Span.ofText s.toJson.toText = .ok s := by
  refine Span.ofText_of_isTextOf h ?_
  rw [Json.toText, String.toList_ofList]
  exact isTextOf_compact (Span.isPlain h)

/-- A span with every kind of character that has to be escaped, and with the first and last of times. -/
def escapedSpan : Span :=
  { id := "\"\\\n\x00\x1f", parentId := some "", startTime := Time.least, endTime := Time.most,
    label := "null", actor := "\u007f\u2028𝄞", kind := .exit, peer := some "\t\x08\x0c\r/",
    isError := true, tags := [⟨"", "[\x7b"⟩, ⟨"", ""⟩],
    logs := [⟨Time.least, []⟩, ⟨0, [⟨"\x7d", ","⟩]⟩], refs := [{}, { traceId := some "\"", kind := some "" }] }

theorem escapedSpan_read_back : Span.ofText escapedSpan.toJson.toText = .ok escapedSpan :=
  Span.ofText_toText ⟨by decide, by decide, by decide⟩

end Waterfall
