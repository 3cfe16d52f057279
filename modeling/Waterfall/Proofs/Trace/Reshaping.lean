import Waterfall.Proofs.Json.Printing
import Waterfall.Proofs.Trace.Changes

/-!
# Shapes of a trace document

The same list of spans can come bare, under its name, or wrapped in objects as the query service wraps
it, with the members of its objects in any order and with members that nobody asks for among them. The
trace does not depend on any of that (`parseTrace_of_reshaped`).

Leaving out the order rests on the readers taking the members of an object by name: a record that cannot
be read is complained about in the same words whatever the order of its members.
-/

namespace Waterfall

/-- One change of shape, of the value in a place of the document. -/
inductive Reshaped : Part → Json → Json → Prop
  /-- The members of an object in another order. -/
  | reordered {p : Part} {ms ns : List (String × Json)} :
      ms.Perm ns → (ms.map Prod.fst).Nodup → Reshaped p (.object ms) (.object ns)
  /-- A member more that the object is not asked for. -/
  | extended {p : Part} (before after : List (String × Json)) (name : String) (v : Json) :
      p.IsKeyed → name ∉ p.names →
      Reshaped p (.object (before ++ after)) (.object (before ++ (name, v) :: after))
  /-- A bare list of spans given its name. -/
  | named {vs : List Json} : Reshaped .document (.list vs) (.object [("spans", .list vs)])
  /-- A document wrapped in an object. -/
  | wrapped {name : String} {v : Json} :
      name = "queryTrace" ∨ name = "data" → Reshaped .document v (.object [(name, v)])

theorem Part.asked_arranged_of_extended {p : Part} {name : String} (hname : name ∉ p.names)
    (before after : List (String × Json)) (v : Json) :
    p.asked (Json.arrangedMembers [] (before ++ after)) =
      p.asked (Json.arrangedMembers [] (before ++ (name, v) :: after)) := by
  unfold asked
  rw [Json.filter_arrangedMembers p.names.contains .nil, Json.filter_arrangedMembers p.names.contains .nil,
    List.filter_append, List.filter_append, List.filter_cons_of_neg (by simpa using hname)]

theorem Reshaped.harmless : Harmless Reshaped := by
  intro p v w h
  cases h with
  | reordered hperm hnames =>
    simp only [Json.arranged, Json.arrangedMembers_perm hperm hnames]
    exact Part.alike_refl p _
  | extended _ _ _ _ hp hname => exact Part.alike_of_asked_eq hp (Part.asked_arranged_of_extended hname _ _ _)
  | named =>
    simp only [Json.arranged, Json.arrangedMembers, Json.setMember]
    show spansOfDocument _ = spansOfDocument _
    rw [spansOfDocument_list, spansOfDocument_object]
    rfl
  | wrapped hname =>
    simp only [Json.arranged, Json.arrangedMembers, Json.setMember]
    show spansOfDocument _ = spansOfDocument _
    rw [spansOfDocument_object]
    rcases hname with rfl | rfl <;> rfl

/-- A document brought into another shape. -/
def SameUpToShape : Json → Json → Prop := Relation.EqvGen (Within Reshaped .document)

/-- A document wrapped in objects, one around the other, under these names from the outside in. -/
def wrappedIn (names : List String) (d : Json) : Json :=
  names.foldr (fun name inner => .object [(name, inner)]) d

/-- However long the chain of wrapping objects is. -/
theorem sameUpToShape_wrappedIn {names : List String}
    (h : ∀ name ∈ names, name = "queryTrace" ∨ name = "data") (d : Json) :
    SameUpToShape d (wrappedIn names d) := by
  induction names with
  | nil => exact .refl d
  | cons name names ih =>
    have hinner := ih fun n hn => h n (List.mem_cons_of_mem _ hn)
    exact .trans _ _ _ hinner (.rel _ _ (.here (.wrapped (h name (by simp)))))

/-- A list of spans under its name, bare or wrapped, is the bare list. -/
theorem sameUpToShape_named {names : List String}
    (h : ∀ name ∈ names, name = "queryTrace" ∨ name = "data") (vs : List Json) :
    SameUpToShape (.list vs) (wrappedIn names (.object [("spans", .list vs)])) :=
  .trans _ _ _ (.rel _ _ (.here .named)) (sameUpToShape_wrappedIn h _)

/-- **The shape of a document does not matter.** Two documents that are the same up to their shape, neither
nested too deep, give the same spans or the same error, whatever texts they are given in. -/
theorem parseTrace_of_reshaped {d d' : Json} (h : SameUpToShape d d') {input input' : String}
    (htext : Json.IsTextOf input.toList d) (htext' : Json.IsTextOf input'.toList d')
    (hdepth : d.nesting ≤ Json.mostNesting) (hdepth' : d'.nesting ≤ Json.mostNesting) :
    parseTrace input = parseTrace input' :=
  parseTrace_eq_of_changes Reshaped.harmless h htext htext' hdepth hdepth'

def bareSpan : String := "[\x7b\"id\":\"a\",\"startTime\":0,\"endTime\":9\x7d]"

/-- The same span as the query service answers, with its members turned round and some more of them. -/
def answeredSpan : String :=
  "\x7b\"took\":3,\"data\":\x7b\"queryTrace\":\x7b\"spans\":[\x7b\"endTime\":9,\"startTime\":0," ++
  "\"spans\":[null],\"id\":\"a\"\x7d]\x7d\x7d\x7d"

/-- The members of the span in `bareSpan` and in `answeredSpan`. -/
def bareMembers : List (String × Json) := [("id", .text "a"), ("startTime", .whole 0), ("endTime", .whole 9)]

def answeredMembers : List (String × Json) :=
  [("endTime", .whole 9), ("startTime", .whole 0), ("spans", .list [.null]), ("id", .text "a")]

theorem answeredSpan_read_as_bare :
    let bare : Json := .list [.object bareMembers]
    let answered : Json := .object [("took", .whole 3),
      ("data", wrappedIn ["queryTrace"] (.object [("spans", .list [.object answeredMembers])]))]
    SameUpToShape bare answered ∧ Json.IsTextOf bareSpan.toList bare ∧
      Json.IsTextOf answeredSpan.toList answered ∧ parseTrace bareSpan = parseTrace answeredSpan := by
  intro bare answered
  have hturned : Within Reshaped .document bare (.list [.object bareMembers.reverse]) :=
    .item [] [] (.here (.reordered (List.reverse_perm _).symm (by decide)))
  have hspan : Within Reshaped .document (.list [.object bareMembers.reverse])
      (.list [.object answeredMembers]) :=
    .item [] [] (.here (.extended (bareMembers.reverse.take 2) [("id", .text "a")] "spans" (.list [.null])
      trivial (by decide)))
  have hwrapped : SameUpToShape (.list [.object answeredMembers])
      (wrappedIn ["data", "queryTrace"] (.object [("spans", .list [.object answeredMembers])])) :=
    sameUpToShape_named (by simp) _
  have htook : Within Reshaped .document
      (wrappedIn ["data", "queryTrace"] (.object [("spans", .list [.object answeredMembers])])) answered :=
    .here (.extended [] _ "took" (.whole 3) trivial (by decide))
  have hsame : SameUpToShape bare answered :=
    .trans _ _ _ (.rel _ _ hturned) (.trans _ _ _ (.rel _ _ hspan) (.trans _ _ _ hwrapped (.rel _ _ htook)))
  have htext : Json.IsTextOf bareSpan.toList bare := by
    have hcompact : bareSpan.toList = Json.compact bare := by decide +kernel
    rw [hcompact]
    exact Json.isTextOf_compact (by decide)
  have htext' : Json.IsTextOf answeredSpan.toList answered := by
    have hcompact : answeredSpan.toList = Json.compact answered := by decide +kernel
    rw [hcompact]
    exact Json.isTextOf_compact (by decide)
  exact ⟨hsame, htext, htext', parseTrace_of_reshaped hsame htext htext' (by decide) (by decide)⟩

end Waterfall
