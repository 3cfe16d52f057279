import Waterfall.Number.Decimal

/-!
# The decade of a double

The whole part of the base-ten logarithm, with the logarithm itself rounded to double precision
first. The rounding matters only just below a power of ten: there the logarithm may round up to the
whole number, and the double then counts as having reached the power. Both the power and the
logarithm are compared in exact integers.
-/

namespace Waterfall

namespace Decade

/-- The natural logarithm of ten, over `10^21`. -/
def lnTen : Nat := 2302585092994045684018

def lnTenScale : Nat := tenTo 21

/-- Half the gap between a whole number `t ≠ 0` and the next smaller double is `2^-s`; this is `s`. -/
def halfGapBits (t : Int) : Nat :=
  let b := t.natAbs.log2
  if 0 < t ∧ t.natAbs = twoTo b then 54 - b else 53 - b

/-- Whether the logarithm of `num / den`, just below `10^t`, rounds to `t`: the shortfall from the
power, relative to it, is at most half a gap times `ln 10`. -/
def reaches (num den : Nat) (t : Int) : Bool :=
  let (pow, unit) := if 0 ≤ t then (tenTo t.toNat, 1) else (1, tenTo (-t).toNat)
  -- There are doubles as close to zero as needed, so no logarithm rounds up to zero.
  t ≠ 0 && (pow * den - num * unit) * twoTo (halfGapBits t) * lnTenScale ≤ lnTen * pow * den

end Decade

/-- The whole part of the logarithm of a positive double; zero where there is none. -/
def decade (x : Float) : Int :=
  match Binary.ofFloat x with
  | .finite false m e =>
    if m = 0 then 0
    else
      let (num, den) := quotient m e
      let k := magnitude num den
      if Decade.reaches num den (k + 1) then k + 1 else k
  | _ => 0

/-- The double nearest to `10^k`. -/
def tenPower (k : Int) : Float :=
  if 0 ≤ k then doubleOfInt (tenTo k.toNat) else (Binary.ofQuotient false 1 (tenTo (-k).toNat)).toFloat

end Waterfall
