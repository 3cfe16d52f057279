/-!
# Numbered requests

Search requests are numbered from one on, and only the answer to the latest of them is let through.
Numbers have 64 bits; zero is the number of no request.
-/

namespace Waterfall

/-- The number of the latest request, zero before the first. -/
structure RequestSequence where
  latest : Nat := 0
  deriving DecidableEq, Repr

namespace RequestSequence

/-- The sequence before its first request. -/
def start : RequestSequence := {}

/-- All numbers are below this one, the 64th power of two. -/
def numberBound : Nat := 18446744073709551616

/-- Numbers a new request. After the greatest number they begin again at zero. -/
def issue (s : RequestSequence) : Nat × RequestSequence :=
  let number := (s.latest + 1) % numberBound
  (number, ⟨number⟩)

/-- Whether a number is that of the latest request. -/
def isCurrent (s : RequestSequence) (number : Nat) : Bool := number ≠ 0 && number == s.latest

/-- Lets the answer to the latest request through. -/
def accept {α : Type} (s : RequestSequence) (number : Nat) (response : α) : Option α :=
  if s.isCurrent number then some response else none

/-- As long as there are numbers left, the next one is given out. -/
theorem issue_of_lt {s : RequestSequence} (h : s.latest + 1 < numberBound) :
    s.issue = (s.latest + 1, ⟨s.latest + 1⟩) := by
  simp only [issue, Nat.mod_eq_of_lt h]

example : (⟨numberBound - 1⟩ : RequestSequence).issue = (0, ⟨0⟩) := by decide

theorem isCurrent_iff {s : RequestSequence} {number : Nat} :
    s.isCurrent number = true ↔ number ≠ 0 ∧ number = s.latest := by
  simp [isCurrent]

end RequestSequence

end Waterfall
