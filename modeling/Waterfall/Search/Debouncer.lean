/-!
# Quiet periods

While someone types, a search waits until the input has been quiet for a while. Instants are
milliseconds on any clock that the caller reads; an instant before the last input counts as the
instant of that input.
-/

namespace Waterfall

/-- The input that waits. -/
structure PendingQuery where
  since : Int
  query : String
  deriving DecidableEq, Repr

structure Debouncer where
  /-- The length of the quiet period. -/
  delay : Int
  pending : Option PendingQuery := none
  deriving DecidableEq, Repr

namespace Debouncer

/-- Takes note of an input, and starts the quiet period again. -/
def input (d : Debouncer) (query : String) (now : Int) : Debouncer :=
  { d with pending := some ⟨now, query⟩ }

/-- The time since an input. -/
def elapsed (p : PendingQuery) (now : Int) : Int := max 0 (now - p.since)

/-- The query to send, once the quiet period is over; it is sent only once. -/
def ready (d : Debouncer) (now : Int) : Option String × Debouncer :=
  match d.pending with
  | some p => if elapsed p now < d.delay then (none, d) else (some p.query, { d with pending := none })
  | none => (none, d)

/-- Drops the input that waits. -/
def cancel (d : Debouncer) : Debouncer := { d with pending := none }

def isPending (d : Debouncer) : Bool := d.pending.isSome

/-- A query is sent when an input waits and has been quiet for long enough. -/
theorem fst_ready_eq_some_iff {d : Debouncer} {now : Int} {query : String} :
    (d.ready now).1 = some query ↔
      ∃ p, d.pending = some p ∧ p.query = query ∧ d.delay ≤ elapsed p now := by
  unfold ready
  split
  · next p h =>
    split <;> simp_all
  · simp_all

/-- Asking too early changes nothing. -/
theorem snd_ready_of_none {d : Debouncer} {now : Int} (h : (d.ready now).1 = none) :
    (d.ready now).2 = d := by
  unfold ready at h ⊢
  split
  · split <;> simp_all
  · rfl

end Debouncer

end Waterfall
