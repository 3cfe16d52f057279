import Waterfall.Trace.Structure

/-!
# The first failure of a pass

The checks of a trace and the resolving of its records go through a list from the top and stop at the
first item that fails. `traverseFrom` is that pass, and `traverseFrom_eq_error_iff` says which failure
comes out: that of an item none before which fails. Passes that only look for a defect are the case
without a result (`firstDefect?_eq_some_iff`).
-/

namespace Waterfall

variable {α β ε : Type} {f : Nat → α → Except ε β}

/-- Takes the items in order, each with its place, up to the first failure. -/
def traverseFrom (f : Nat → α → Except ε β) : Nat → List α → Except ε (List β)
  | _, [] => .ok []
  | place, x :: rest =>
    match f place x with
    | .error e => .error e
    | .ok y => (traverseFrom f (place + 1) rest).map (y :: ·)

/-- The failure of a pass is that of the first item that fails. -/
theorem traverseFrom_eq_error_iff {place : Nat} {xs : List α} {e : ε} :
    traverseFrom f place xs = .error e ↔
      ∃ i x, xs[i]? = some x ∧ f (place + i) x = .error e ∧
        ∀ j < i, ∀ y, xs[j]? = some y → ∃ b, f (place + j) y = .ok b := by
  induction xs generalizing place with
  | nil => simp [traverseFrom]
  | cons x rest ih =>
    have hshift : ∀ i, place + (i + 1) = place + 1 + i := by
      intro i
      omega
    cases hx : f place x with
    | error e' =>
      simp only [traverseFrom, hx, Except.error.injEq]
      constructor
      · rintro rfl
        exact ⟨0, x, rfl, hx, by simp⟩
      · rintro ⟨i, y, hy, hfails, hbefore⟩
        cases i with
        | zero =>
          obtain rfl : x = y := by simpa using hy
          exact Except.error.inj (hx.symm.trans hfails)
        | succ i =>
          obtain ⟨b, hb⟩ := hbefore 0 (by omega) x rfl
          exact absurd (hx.symm.trans hb) (by simp)
    | ok b =>
      have hmap : traverseFrom f place (x :: rest) = .error e ↔
          traverseFrom f (place + 1) rest = .error e := by
        simp only [traverseFrom, hx]
        cases traverseFrom f (place + 1) rest <;> simp [Except.map]
      rw [hmap, ih]
      constructor
      · rintro ⟨i, y, hy, hfails, hbefore⟩
        refine ⟨i + 1, y, by simpa using hy, by rwa [hshift], ?_⟩
        intro j hj z hz
        cases j with
        | zero =>
          obtain rfl : x = z := by simpa using hz
          exact ⟨b, hx⟩
        | succ j =>
          rw [hshift]
          exact hbefore j (by omega) z (by simpa using hz)
      · rintro ⟨i, y, hy, hfails, hbefore⟩
        cases i with
        | zero =>
          obtain rfl : x = y := by simpa using hy
          exact absurd (hx.symm.trans hfails) (by simp)
        | succ i =>
          refine ⟨i, y, by simpa using hy, by rwa [hshift] at hfails, ?_⟩
          intro j hj z hz
          rw [← hshift]
          exact hbefore (j + 1) (by omega) z (by simpa using hz)

/-! ## Checks row by row -/

/-- A check as a step without a result. -/
def failing (check : Nat → Span → Option Defect) (row : Nat) (s : Span) : Except Defect Unit :=
  match check row s with
  | some d => .error d
  | none => .ok ()

theorem failing_eq_error_iff {check : Nat → Span → Option Defect} {row : Nat} {s : Span} {d : Defect} :
    failing check row s = .error d ↔ check row s = some d := by
  cases h : check row s <;> simp [failing, h]

theorem exists_failing_ok_iff {check : Nat → Span → Option Defect} {row : Nat} {s : Span} :
    (∃ u, failing check row s = .ok u) ↔ check row s = none := by
  cases h : check row s <;> simp [failing, h]

theorem firstDefect?_eq_some_iff_traverseFrom {check : Nat → Span → Option Defect} {row : Nat}
    {spans : List Span} {d : Defect} :
    firstDefect? check row spans = some d ↔ traverseFrom (failing check) row spans = .error d := by
  induction spans generalizing row with
  | nil => simp [firstDefect?, traverseFrom]
  | cons s rest ih =>
    cases h : check row s with
    | some d' => simp [firstDefect?, traverseFrom, failing, h]
    | none =>
      simp only [firstDefect?, traverseFrom, failing, h, Option.orElse_none, ih]
      cases traverseFrom (failing check) (row + 1) rest <;> simp [Except.map]

/-- A check applied row by row finds what it finds in the least row it objects to. -/
theorem firstDefect?_eq_some_iff {check : Nat → Span → Option Defect} {spans : List Span} {d : Defect} :
    firstDefect? check 0 spans = some d ↔
      ∃ row s, spans[row]? = some s ∧ check row s = some d ∧
        ∀ r < row, ∀ t, spans[r]? = some t → check r t = none := by
  simp only [firstDefect?_eq_some_iff_traverseFrom, traverseFrom_eq_error_iff, Nat.zero_add,
    failing_eq_error_iff, exists_failing_ok_iff]

end Waterfall
