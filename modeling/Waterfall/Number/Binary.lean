import Waterfall.Number.Power

/-!
# Exact values of floating numbers

`Binary` is what a floating number stands for: no number, an infinity, or `± mantissa · 2^exponent`
with the sign kept for zero. Single and double precision are two rounded views of it, so every
change of precision, every rounding to a whole number and every decimal text in the library goes
through this type and stays inside exact integer arithmetic.
-/

namespace Waterfall

open Float.Model (UnpackedFloat)

/-- The value of a floating number, exactly. A zero has mantissa `0` and keeps its sign. -/
inductive Binary where
  | nan
  | infinite (negative : Bool)
  | finite (negative : Bool) (mantissa : Nat) (exponent : Int)
  deriving DecidableEq, Repr

namespace Binary

/-! ## The two precisions -/

/-- The value behind the fields of a floating number. -/
def ofUnpacked : UnpackedFloat → Binary
  | .notANumber => .nan
  | .infinity .positive => .infinite false
  | .infinity .negative => .infinite true
  | .zero .positive => .finite false 0 0
  | .zero .negative => .finite true 0 0
  | .finite .positive m e _ => .finite false m e
  | .finite .negative m e _ => .finite true m e

/-- The sign of a floating number, `true` for negative. -/
def signOf (negative : Bool) : UnpackedFloat.Sign :=
  if negative then .negative else .positive

/-- The number of the given format nearest to a value; a tie goes to the even mantissa. -/
def rounded (format : Float.Model.Format) : Binary → UnpackedFloat
  | .nan => .notANumber
  | .infinite s => .infinity (signOf s)
  | .finite s m e => if m = 0 then .zero (signOf s) else .round format (signOf s) m e

def ofFloat (x : Float) : Binary := ofUnpacked x.toModel.unpack

def ofFloat32 (x : Float32) : Binary := ofUnpacked x.toModel.unpack

/-- The double nearest to the value, infinite beyond the largest one. -/
def toFloat (b : Binary) : Float := .ofModel (.pack (b.rounded .binary64))

/-- The single nearest to the value, infinite beyond the largest one. -/
def toFloat32 (b : Binary) : Float32 := .ofModel (.pack (b.rounded .binary32))

/-- A whole number as a value. -/
def ofInt (n : Int) : Binary := .finite (n < 0) n.natAbs 0

/-- The value of `± num / den` to 66 bits or more, with one further bit that is set when the quotient
goes on below them. That bit never lets a remainder pass for a tie, so the result rounds to either
precision as the quotient itself does. -/
def ofQuotient (negative : Bool) (num den : Nat) : Binary :=
  let shift := 66 + den.log2 - num.log2
  let scaled := num * twoTo shift
  let sticky := if scaled % den = 0 then 0 else 1
  .finite negative (2 * (scaled / den) + sticky) (-(shift + 1 : Int))

/-! ## Whole numbers -/

/-- The mantissa with a non-negative exponent applied, or divided by the power of two. -/
def wholePart (m : Nat) (e : Int) : Nat :=
  if 0 ≤ e then m * twoTo e.toNat else m / twoTo (-e).toNat

/-- The nearest whole number; a half goes away from zero and the sign of zero is kept. -/
def roundHalfAway : Binary → Binary
  | .finite s m e => if 0 ≤ e then .finite s m e else .finite s (wholePart (2 * m + twoTo (-e).toNat) (e - 1)) 0
  | b => b

/-- The whole part toward zero, kept between two bounds; no number gives zero. -/
def clampToInt (least most : Int) : Binary → Int
  | .nan => 0
  | .infinite true => least
  | .infinite false => most
  | .finite s m e =>
    let n : Int := wholePart m e
    max least (min most (if s then -n else n))

end Binary

/-- The single nearest to a double. -/
def narrow (x : Float) : Float32 := (Binary.ofFloat x).toFloat32

/-- The double of the same value as a single. -/
def widen (x : Float32) : Float := (Binary.ofFloat32 x).toFloat

/-- The whole number nearest to a single, as a single; a half goes away from zero. -/
def roundSingle (x : Float32) : Float32 := (Binary.ofFloat32 x).roundHalfAway.toFloat32

/-- The larger of two numbers. A number wins over what is no number, and of two zeros the
positive one is the larger. -/
def larger (x y : Float32) : Float32 :=
  if x.isNaN then y
  else if y.isNaN then x
  else if x < y then y
  else if y < x then x
  -- Equal numbers differ in sign only as zeros.
  else if Binary.ofFloat32 x = .finite true 0 0 then y
  else x

/-- A 64-bit whole number as the nearest single. -/
def singleOfInt (n : Int) : Float32 := (Binary.ofInt n).toFloat32

/-- A whole number as the nearest double. -/
def doubleOfInt (n : Int) : Float := (Binary.ofInt n).toFloat

end Waterfall
