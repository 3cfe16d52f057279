import Waterfall.Config.Basic
import Waterfall.Trace.Error
import Waterfall.Trace.Span

/-!
# The structure of a trace

A list of spans can be laid out when it is a forest that lists parents before their children: ids
are distinct, no span ends before it starts or lies too far from the earliest start, the first span
is a root, and every other parent stands in an earlier row. `validate` names the first defect: those
of single rows come before those of parents, and the number of roots comes last.
-/

namespace Waterfall

/-- The first row with the given id. -/
def rowOf? (spans : List Span) (id : String) : Option Nat :=
  spans.findIdx? (·.id == id)

/-- The start of the earliest span, or zero without spans. -/
def earliest (spans : List Span) : Int := ((spans.map (·.startTime)).min?).getD 0

/-- Whether a span's duration and its end, measured from the earliest start, are in range. -/
def measurable (origin : Int) (s : Span) : Bool :=
  Time.fits (s.endTime - s.startTime) && Time.fits (s.endTime - origin)

/-- What is wrong with a row by itself. -/
def rowDefect? (spans : List Span) (row : Nat) (s : Span) : Option Defect :=
  let first := (rowOf? spans s.id).getD row
  if first < row then some (.duplicateId s.id first row)
  else if s.endTime < s.startTime then some (.negativeDuration s.id s.startTime s.endTime)
  else if measurable (earliest spans) s then none
  else some (.timeOutOfRange s.id s.startTime s.endTime)

/-- What is wrong with the parent of a row. -/
def parentDefect? (spans : List Span) (row : Nat) (s : Span) : Option Defect :=
  match s.parentId with
  | none => none
  | some parent =>
    match rowOf? spans parent with
    | none => some (.danglingParent s.id parent)
    | some parentRow =>
      if row ≤ parentRow then some (.parentAfterChild s.id parent row parentRow) else none

/-- The first defect that a check finds, from the given row on. -/
def firstDefect? (check : Nat → Span → Option Defect) : Nat → List Span → Option Defect
  | _, [] => none
  | row, s :: rest => (check row s).orElse fun _ => firstDefect? check (row + 1) rest

/-- What is wrong with the first row if it has a parent. -/
def rootDefect? (spans : List Span) (first : Span) : Option Defect :=
  first.parentId.map fun parent =>
    if (rowOf? spans parent).isSome then .missingRoot first.id else .danglingParent first.id parent

/-- How many spans have no parent. -/
def rootCount (spans : List Span) : Nat := spans.countP Span.isRoot

/-- What is wrong with the number of roots. -/
def rootsDefect? (spans : List Span) (policy : RootPolicy) : Option Defect :=
  if 1 < rootCount spans ∧ policy = .reject then some (.multipleRoots (rootCount spans)) else none

/-- The first defect of a trace. -/
def defect? (spans : List Span) (policy : RootPolicy) : Option Defect :=
  match spans with
  | [] => some .empty
  | first :: _ =>
    (firstDefect? (rowDefect? spans) 0 spans).orElse fun _ =>
      -- The first row comes before the other parents: it may not have one at all.
      (rootDefect? spans first).orElse fun _ =>
        (firstDefect? (parentDefect? spans) 0 spans).orElse fun _ => rootsDefect? spans policy

/-- Whether spans form a trace, and the first defect if they do not. -/
def validate (spans : List Span) (policy : RootPolicy) : Except Defect Unit :=
  match defect? spans policy with
  | some d => .error d
  | none => .ok ()

/-- A check that finds nothing in any row finds no defect. -/
theorem firstDefect?_eq_none_iff {check : Nat → Span → Option Defect} {row : Nat} {spans : List Span} :
    firstDefect? check row spans = none ↔
      ∀ i (h : i < spans.length), check (row + i) spans[i] = none := by
  induction spans generalizing row with
  | nil => simp [firstDefect?]
  | cons s rest ih =>
    have step : firstDefect? check row (s :: rest) = none ↔
        check row s = none ∧ firstDefect? check (row + 1) rest = none := by
      cases h : check row s <;> simp [firstDefect?, h]
    rw [step, ih]
    constructor
    · rintro ⟨h₀, hr⟩ i hi
      cases i with
      | zero => simpa using h₀
      | succ i => simpa [Nat.add_comm, Nat.add_left_comm] using hr i (by simpa using hi)
    · intro h
      refine ⟨h 0 (by simp), fun i hi => ?_⟩
      rw [show row + 1 + i = row + (i + 1) by omega]
      exact h (i + 1) (by simpa using hi)

theorem validate_eq_error_iff {spans : List Span} {policy : RootPolicy} {d : Defect} :
    validate spans policy = .error d ↔ defect? spans policy = some d := by
  unfold validate
  split <;> simp_all

theorem validate_eq_ok_iff {spans : List Span} {policy : RootPolicy} :
    validate spans policy = .ok () ↔ defect? spans policy = none := by
  unfold validate
  split <;> simp_all

end Waterfall
