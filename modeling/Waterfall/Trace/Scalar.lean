import Waterfall.Decode.Tree
import Waterfall.Json.Basic
import Waterfall.Text.Blank
import Waterfall.Trace.Time

/-!
# Scalars

Ids and times arrive as numbers from some services and as text from others. A `Scalar` keeps either
form; it has a text in every case and a number of milliseconds where it can be read as one.
-/

namespace Waterfall

inductive Scalar where
  | whole (n : Int)
  | real (x : Float)
  | flag (b : Bool)
  | text (s : String)

namespace Scalar

/-- Whole numbers of 64 signed bits are kept exactly; larger ones become doubles. -/
def ofJson : Decoder Json Mismatch Scalar
  | .number (.whole n) => .ok (if n ≤ Time.most then .whole n else .real (doubleOfInt n))
  | .number (.double x) => .ok (.real x)
  | .number (.single x) => .ok (.real (widen x))
  | .flag b => .ok (.flag b)
  | .text s => .ok (.text s)
  | _ => .error (.noForm "Scalar")

/-- The text of a scalar. -/
def toText : Scalar → String
  | .whole n => decimal n
  | .real x => textOfDouble x
  | .flag b => if b then "true" else "false"
  | .text s => s

/-- A decimal number of milliseconds with an optional sign and nothing else, in range. -/
def millisOfDigits? (cs : List Char) : Option Int :=
  let (negative, ds) := match cs with
    | '-' :: ds => (true, ds)
    | '+' :: ds => (false, ds)
    | ds => (false, ds)
  if ds.isEmpty || !ds.all Digits.isDigit then none
  else
    let n : Int := if negative then -(Digits.toNat ds : Int) else Digits.toNat ds
    if Time.fits n then some n else none

/-- The number of milliseconds: a real number is rounded, a half away from zero, and stops at the
ends of the range; blanks around a text are ignored. -/
def toMillis? : Scalar → Option Int
  | .whole n => some n
  | .real x => some ((Binary.ofFloat x).roundHalfAway.clampToInt Time.least Time.most)
  | .flag _ => none
  | .text s => millisOfDigits? (trimBlank s.toList)

end Scalar

end Waterfall
