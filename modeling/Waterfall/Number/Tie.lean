/-!
# Division to the nearest whole number

The one place where a quotient of natural numbers is rounded. `Tie` says where an exact half goes.
-/

namespace Waterfall

/-- Where a value exactly between two neighbours goes. -/
inductive Tie where
  | toEven
  | up
  deriving DecidableEq, Repr

/-- `num / den` to the nearest whole number. -/
def roundDiv (num den : Nat) (tie : Tie) : Nat :=
  let q := num / den
  let r := num % den
  if 2 * r < den then q
  else if den < 2 * r then q + 1
  else match tie with
    | .up => q + 1
    | .toEven => if q % 2 = 0 then q else q + 1

/-- The rounded quotient is one of the two whole numbers around the quotient. -/
theorem roundDiv_eq_or (num den : Nat) (tie : Tie) :
    roundDiv num den tie = num / den ∨ roundDiv num den tie = num / den + 1 := by
  unfold roundDiv
  cases tie <;> grind

end Waterfall
