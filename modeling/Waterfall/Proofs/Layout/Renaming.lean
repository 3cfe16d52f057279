import Waterfall.Proofs.Layout.Equivariance

/-!
# Spans under other names

An id is a key and nothing more: it is looked up, and it is given back. So a trace whose ids and parent
ids have other names has the layout that it had, with the new names in it, and a list that is refused is
refused for the same defect, in the same rows and with the same times (`renamed_trace_laid_out_alike`).

The new names must tell apart what the ids of the trace told apart, those of missing parents included;
elsewhere a renaming may send different ids to one name. Ids in a defect come out of the trace, so nothing
has to be said about them apart.
-/

namespace Waterfall

/-! ## New names -/

/-- The span with its id and the id of its parent renamed. -/
def Span.renamed (f : String → String) (s : Span) : Span :=
  { s with id := f s.id, parentId := s.parentId.map f }

/-- The row with the ids of its node renamed. -/
def Row.renamed (f : String → String) (r : Row) : Row :=
  { r with node := { r.node with id := f r.node.id, parentId := r.node.parentId.map f } }

def Connector.renamed (f : String → String) (k : Connector) : Connector :=
  { k with parentId := f k.parentId, childId := f k.childId }

/-- The layout with the ids of its rows and connectors renamed, and all else as it is. -/
def TraceLayout.renamed (f : String → String) (l : TraceLayout) : TraceLayout :=
  { l with rows := l.rows.map (Row.renamed f), connectors := l.connectors.map (Connector.renamed f) }

/-- The defect with its ids renamed, in the same rows and with the same times. -/
def Defect.renamed (f : String → String) : Defect → Defect
  | .empty => .empty
  | .duplicateId id first second => .duplicateId (f id) first second
  | .danglingParent id parent => .danglingParent (f id) (f parent)
  | .parentAfterChild id parent childRow parentRow => .parentAfterChild (f id) (f parent) childRow parentRow
  | .missingRoot id => .missingRoot (f id)
  | .multipleRoots count => .multipleRoots count
  | .negativeDuration id start stop => .negativeDuration (f id) start stop
  | .timeOutOfRange id start stop => .timeOutOfRange (f id) start stop

/-! ## Renaming as a recasting -/

namespace Recasting

/-- Ids get new names, and times stay. -/
def ofRenaming (f : String → String) : Recasting := ⟨f, 0⟩

variable (f : String → String)

theorem span_ofRenaming : (ofRenaming f).span = Span.renamed f := by
  funext s
  simp [span, ofRenaming, Span.renamed]

theorem row_ofRenaming : (ofRenaming f).row = Row.renamed f := by
  funext r
  simp [row, node, ofRenaming, Row.renamed]

theorem layout_ofRenaming : (ofRenaming f).layout = TraceLayout.renamed f := by
  funext l
  have hconnector : (ofRenaming f).connector = Connector.renamed f := rfl
  rw [layout, row_ofRenaming, hconnector]
  rfl

theorem defect_ofRenaming : (ofRenaming f).defect = Defect.renamed f := by
  funext d
  cases d with
  | negativeDuration id start stop => simp [defect, ofRenaming, Defect.renamed]
  | timeOutOfRange id start stop => simp [defect, ofRenaming, Defect.renamed]
  | _ => rfl

end Recasting

/-! ## Names that can be checked -/

/-- The ids that occur in a trace, one after the other. -/
def idsInTurn (spans : List Span) : List String := spans.flatMap fun s => s.id :: s.parentId.toList

theorem mem_occurringIds_iff {spans : List Span} {id : String} :
    id ∈ occurringIds spans ↔ id ∈ idsInTurn spans := by
  simp only [occurringIds, idsInTurn, Set.mem_ofPred_eq, List.mem_flatMap, List.mem_cons, Option.mem_toList,
    eq_comm]

/-- Whether names keep the ids of a trace apart is seen on the trace. -/
instance (f : String → String) (spans : List Span) : Decidable (Set.InjOn f (occurringIds spans)) :=
  decidable_of_iff
    (∀ id ∈ idsInTurn spans, ∀ id' ∈ idsInTurn spans, f id = f id' → id = id') <| by
    constructor
    · intro h id hid id' hid'
      exact h id (mem_occurringIds_iff.mp hid) id' (mem_occurringIds_iff.mp hid')
    · intro h id hid id' hid'
      exact h (mem_occurringIds_iff.mpr hid) (mem_occurringIds_iff.mpr hid')

/-! ## Main statement -/

/-- **Ids matter only through equality.** Under names that keep its ids apart, a trace has the same layout
with these names in it, and a list that is no trace has the same defect. -/
theorem renamed_trace_laid_out_alike (spans : List Span) (f : String → String)
    (hf : Set.InjOn f (occurringIds spans)) (theme : Theme) (config : LayoutConfig)
    (containerWidth : Float32) :
    (∀ layout, TraceLayout.compute spans theme config containerWidth = .ok layout →
      TraceLayout.compute (spans.map (Span.renamed f)) theme config containerWidth = .ok (layout.renamed f)) ∧
    (∀ defect, TraceLayout.compute spans theme config containerWidth = .error defect →
      TraceLayout.compute (spans.map (Span.renamed f)) theme config containerWidth =
        .error (defect.renamed f)) := by
  have hrecast := Recasting.compute_recast (c := .ofRenaming f) hf theme config containerWidth
  rw [Recasting.span_ofRenaming, Recasting.layout_ofRenaming, Recasting.defect_ofRenaming] at hrecast
  constructor
  · intro layout hlayout
    rw [hrecast, hlayout]
    rfl
  · intro defect hdefect
    rw [hrecast, hdefect]
    rfl

/-- Two of the ids change places, and all that the traces do not use goes by one name. -/
def swappedNames : String → String
  | "a" => "b"
  | "b" => "a"
  | "c" => ""
  | _ => "other"

theorem nestedCalls_renamed_mutualCalls_refused_alike :
    Set.InjOn swappedNames (occurringIds nestedCalls) ∧
    (∃ layout, TraceLayout.compute nestedCalls .classic { rootPolicy := .reject } 800 = .ok layout ∧
      TraceLayout.compute (nestedCalls.map (Span.renamed swappedNames)) .classic
        { rootPolicy := .reject } 800 = .ok (layout.renamed swappedNames)) ∧
    Set.InjOn swappedNames (occurringIds mutualCalls) ∧
    TraceLayout.compute mutualCalls .classic {} 800 = .error (.parentAfterChild "b" "c" 1 2) ∧
    TraceLayout.compute (mutualCalls.map (Span.renamed swappedNames)) .classic {} 800 =
      .error (.parentAfterChild "a" "" 1 2) := by
  have hnested : Set.InjOn swappedNames (occurringIds nestedCalls) := by decide
  have hmutual : Set.InjOn swappedNames (occurringIds mutualCalls) := by decide
  have hlayout : TraceLayout.compute nestedCalls .classic { rootPolicy := .reject } 800 = .ok _ :=
    TraceLayout.compute_of_ok validate_nestedCalls
  have hdefect : TraceLayout.compute mutualCalls .classic {} 800 =
      .error (.parentAfterChild "b" "c" 1 2) := rfl
  obtain ⟨hdrawn, -⟩ :=
    renamed_trace_laid_out_alike nestedCalls _ hnested .classic { rootPolicy := .reject } 800
  obtain ⟨-, hrefused⟩ := renamed_trace_laid_out_alike mutualCalls _ hmutual .classic {} 800
  exact ⟨hnested, ⟨_, hlayout, hdrawn _ hlayout⟩, hmutual, hdefect, hrefused _ hdefect⟩

end Waterfall
