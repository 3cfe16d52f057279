import Waterfall.Proofs.Json.Printing
import Waterfall.Proofs.Trace.Changes
import Waterfall.Proofs.Trace.Milliseconds

/-!
# Numbers and their decimal texts

Services write an id or a time as a number or as text. Wherever a scalar is read, a whole number in the
range of 64 signed bits and its decimal text are the same: both have that text, so that a child naming its
parent by text finds a parent numbered by a number, and both tell the same time. Replacing one by the other
in any of these places leaves the trace as it is (`parseTrace_of_requoted`).
-/

namespace Waterfall

/-- A number where a scalar is read, and its decimal text in its stead. -/
inductive Requoted : Part → Json → Json → Prop
  | quoted {n : Int} : Time.fits n = true → Requoted .scalar (.whole n) (.text (decimal n))

theorem Requoted.harmless : Harmless Requoted := by
  intro p v w h
  cases h with
  | @quoted n hn =>
    have hread : JsonDecoder.optional Scalar.ofJson (.whole n) = .ok (some (.whole n)) := by
      show Except.map some (Scalar.ofJson (.whole n)) = _
      rw [Scalar.ofJson_whole hn]
      rfl
    show Agree (Option.Rel Scalar.Alike) (JsonDecoder.optional Scalar.ofJson (.whole n))
      (.ok (some (.text (decimal n))))
    rw [hread]
    exact .ok (.some ⟨rfl, (Scalar.toMillis?_decimal hn).symm⟩)

/-- A document changed by writing numbers as texts, or texts as numbers, where scalars are read. -/
def SameUpToQuotes : Json → Json → Prop := Relation.EqvGen (Within Requoted .document)

/-- **Numbers and their texts are interchangeable.** A document that is not nested too deep gives the same
spans or the same error, and one that is remains so. -/
theorem parseTrace_of_requoted {d d' : Json} (h : SameUpToQuotes d d') {input input' : String}
    (htext : Json.IsTextOf input.toList d) (htext' : Json.IsTextOf input'.toList d') :
    (d.nesting ≤ Json.mostNesting → parseTrace input = parseTrace input') ∧
      (Json.mostNesting < d.nesting → ∃ place place',
        parseTrace input = .error (.badText .tooDeep place) ∧
        parseTrace input' = .error (.badText .tooDeep place')) := by
  have hnesting : d.nesting = d'.nesting := by
    apply nesting_eq_of_changes _ h
    intro p v w h
    cases h with
    | quoted _ => rfl
  constructor
  · intro hdepth
    exact parseTrace_eq_of_changes Requoted.harmless h htext htext' hdepth (hnesting ▸ hdepth)
  · intro hdepth
    obtain ⟨place, hplace⟩ := parseTrace_of_isTextOf_deep htext hdepth
    obtain ⟨place', hplace'⟩ := parseTrace_of_isTextOf_deep htext' (hnesting ▸ hdepth)
    exact ⟨place, place', hplace, hplace'⟩

/-- A span and the one after it, which has these members. -/
def rootAndChild (child : List (String × Json)) : Json := .object [("spans", .list [
  .object [("spanId", .whole 1), ("startTime", .whole 0), ("endTime", .whole 9)], .object child])]

/-- A child by the name that it has for its parent and by its end. -/
def childOfRoot (parent stop : Json) : Json :=
  rootAndChild [("spanId", .whole 2), ("parentSpanId", parent), ("startTime", .whole 3), ("endTime", stop)]

def parentByNumber : String :=
  "\x7b\"spans\":[\x7b\"spanId\":1,\"startTime\":0,\"endTime\":9\x7d," ++
  "\x7b\"spanId\":2,\"parentSpanId\":1,\"startTime\":3,\"endTime\":9223372036854775807\x7d]\x7d"

def parentByText : String :=
  "\x7b\"spans\":[\x7b\"spanId\":1,\"startTime\":0,\"endTime\":9\x7d," ++
  "\x7b\"spanId\":2,\"parentSpanId\":\"1\",\"startTime\":3,\"endTime\":\"9223372036854775807\"\x7d]\x7d"

/-- A change of one member of the child is one of the document. -/
theorem within_rootAndChild (before after : List (String × Json)) {name : String} {v w : Json}
    (h : Within Requoted (Part.span.member name) v w) :
    Within Requoted .document (rootAndChild (before ++ (name, v) :: after))
      (rootAndChild (before ++ (name, w) :: after)) := by
  have hspan : Within Requoted (Part.spans.item 1) _ _ := .member before after h
  have hspans : Within Requoted (Part.document.member "spans") _ _ :=
    .item [.object [("spanId", .whole 1), ("startTime", .whole 0), ("endTime", .whole 9)]] [] hspan
  exact .member [] [] hspans

/-- The same spans, once with all numbers written as such and once with two of them in quotes. -/
theorem parentByText_read_as_number :
    Json.IsTextOf parentByNumber.toList (childOfRoot (.whole 1) (.whole 9223372036854775807)) ∧
    Json.IsTextOf parentByText.toList (childOfRoot (.text "1") (.text "9223372036854775807")) ∧
    parseTrace parentByNumber = parseTrace parentByText := by
  have hone : decimal 1 = "1" := by decide +kernel
  have hmost : decimal 9223372036854775807 = "9223372036854775807" := by decide +kernel
  have hparent : Within Requoted .document
      (childOfRoot (.whole 1) (.whole 9223372036854775807))
      (childOfRoot (.text (decimal 1)) (.whole 9223372036854775807)) :=
    within_rootAndChild [("spanId", .whole 2)] _ (.here (.quoted (by decide)))
  have hstop : Within Requoted .document
      (childOfRoot (.text (decimal 1)) (.whole 9223372036854775807))
      (childOfRoot (.text (decimal 1)) (.text (decimal 9223372036854775807))) :=
    within_rootAndChild [("spanId", .whole 2), ("parentSpanId", .text (decimal 1)), ("startTime", .whole 3)] []
      (.here (.quoted (by decide)))
  rw [hone] at hparent hstop
  rw [hmost] at hstop
  have hsame : SameUpToQuotes (childOfRoot (.whole 1) (.whole 9223372036854775807))
      (childOfRoot (.text "1") (.text "9223372036854775807")) :=
    .trans _ _ _ (.rel _ _ hparent) (.rel _ _ hstop)
  have htext : Json.IsTextOf parentByNumber.toList
      (childOfRoot (.whole 1) (.whole 9223372036854775807)) := by
    have hcompact : parentByNumber.toList =
        Json.compact (childOfRoot (.whole 1) (.whole 9223372036854775807)) := by decide +kernel
    rw [hcompact]
    exact Json.isTextOf_compact (by decide)
  have htext' : Json.IsTextOf parentByText.toList
      (childOfRoot (.text "1") (.text "9223372036854775807")) := by
    have hcompact : parentByText.toList =
        Json.compact (childOfRoot (.text "1") (.text "9223372036854775807")) := by decide +kernel
    rw [hcompact]
    exact Json.isTextOf_compact (by decide)
  refine ⟨htext, htext', ?_⟩
  exact (parseTrace_of_requoted hsame htext htext').1 (by decide)

end Waterfall
