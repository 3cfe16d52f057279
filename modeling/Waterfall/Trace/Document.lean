import Waterfall.Json.Document
import Waterfall.Trace.Resolve

/-!
# Trace documents

A document is a list of spans, an object that holds the list under `spans`, or either of these
wrapped in objects under `queryTrace` or `data`, as the query service answers.
-/

namespace Waterfall

/-- A member is smaller than the members it is found among. -/
theorem Json.sizeOf_member? {key : String} {members : List (String × Json)} {v : Json}
    (h : Json.member? key members = some v) : sizeOf v < sizeOf members := by
  induction members with
  | nil => simp [Json.member?] at h
  | cons m rest ih =>
    obtain ⟨k, w⟩ := m
    simp only [Json.member?, List.lookup_cons] at h
    split at h
    · simp only [Option.some.injEq] at h
      subst h
      simp
      omega
    · have := ih h
      simp
      omega

/-- The value that should be the list of spans. -/
def locateSpans : Json → Option Json
  | .list vs => some (.list vs)
  | .object members =>
    match Json.member? "spans" members with
    | some spans => some spans
    | none =>
      match _located : Json.member? "queryTrace" members with
      | some query => locateSpans query
      | none =>
        match _located : Json.member? "data" members with
        | some data => locateSpans data
        | none => none
  | _ => none
termination_by v => sizeOf v
decreasing_by
  all_goals
    have := Json.sizeOf_member? _located
    simp
    omega

/-- The spans of a document that has been read. -/
def spansOfDocument (document : Json) : Except TraceError (List Span) :=
  match locateSpans document with
  | none => .error .noSpanList
  | some spans =>
    match JsonDecoder.list SpanRecord.ofJson spans with
    | .error m => .error (.badShape m)
    | .ok records => SpanRecord.resolve records

/-- The spans of a trace given as JSON text. -/
def parseTrace (input : String) : Except TraceError (List Span) :=
  let text := input.toList
  match Json.ofText text with
  | .error f => .error (.ofFailure text f)
  | .ok document => spansOfDocument document

end Waterfall
