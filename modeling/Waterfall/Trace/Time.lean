/-!
# Times in milliseconds

Times and durations are whole milliseconds in the range of 64 signed bits. Sums and differences that
leave the range are either refused (`fits`) or stop at its end (`clamp`).
-/

namespace Waterfall.Time

def least : Int := -9223372036854775808

def most : Int := 9223372036854775807

/-- Whether a number of milliseconds is in range. -/
def fits (n : Int) : Bool := least ≤ n && n ≤ most

/-- The nearest number in range. -/
def clamp (n : Int) : Int := max least (min most n)

theorem fits_iff {n : Int} : fits n = true ↔ least ≤ n ∧ n ≤ most := by
  simp [fits]

/-- A number in range is its own nearest. -/
theorem clamp_of_fits {n : Int} (h : fits n = true) : clamp n = n := by
  have := fits_iff.1 h
  unfold clamp
  omega

theorem fits_clamp (n : Int) : fits (clamp n) = true := by
  have : least ≤ most := by decide
  rw [fits_iff]
  unfold clamp
  omega

end Waterfall.Time
