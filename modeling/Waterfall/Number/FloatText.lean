import Waterfall.Number.Decimal

/-!
# Reading a floating number

The text of a floating number: an optional sign, then digits with an optional point and an optional
exponent, or one of the words for infinity and for no number. The text denotes an exact decimal,
which is rounded once to the precision asked for.
-/

namespace Waterfall

/-- What the text of a floating number denotes. -/
inductive FloatText where
  | nan
  | infinite (negative : Bool)
  /-- `± digits · 10^exponent` -/
  | decimal (negative : Bool) (digits : Nat) (exponent : Int)

namespace FloatText

/-- An optional sign, `true` for minus. -/
def sign : List Char → Bool × List Char
  | '+' :: cs => (false, cs)
  | '-' :: cs => (true, cs)
  | cs => (false, cs)

/-- The words, in any case. -/
def word? (negative : Bool) (cs : List Char) : Option FloatText :=
  let w := String.ofList (cs.map Char.toLower)
  if w == "inf" || w == "infinity" then some (.infinite negative)
  else if w == "nan" then some .nan
  else none

/-- The exponent, if there is one, up to the end of the text. -/
def exponent? : List Char → Option Int
  | [] => some 0
  | c :: cs =>
    if c = 'e' ∨ c = 'E' then
      let (negative, ds) := sign cs
      if ds.isEmpty || !ds.all Digits.isDigit then none
      else some (if negative then -(Digits.toNat ds : Int) else Digits.toNat ds)
    else none

/-- Digits with an optional point, at least one digit in all, and an optional exponent. -/
def decimal? (negative : Bool) (cs : List Char) : Option FloatText :=
  let (whole, rest) := cs.span Digits.isDigit
  let (fraction, rest) := match rest with
    | '.' :: rest => rest.span Digits.isDigit
    | rest => ([], rest)
  if whole.isEmpty && fraction.isEmpty then none
  else (exponent? rest).map fun e =>
    .decimal negative (Digits.toNat (whole ++ fraction)) (e - fraction.length)

/-- What a whole text denotes. -/
def parse? (cs : List Char) : Option FloatText :=
  let (negative, cs) := sign cs
  (decimal? negative cs).orElse fun _ => word? negative cs

/-- Decimals from `10^400` on are beyond the largest double, and those below `10^-400` are nearer to
zero than to the least one. -/
def farthestPower : Int := 400

/-- The value of a text, close enough to round to either precision as the exact decimal does. A
decimal beyond both of them is infinite or zero already, however long its exponent is. -/
def toBinary : FloatText → Binary
  | .nan => .nan
  | .infinite s => .infinite s
  | .decimal s m e =>
    let lead := e + Digits.count m - 1
    if m = 0 ∨ lead < -farthestPower then .finite s 0 0
    else if farthestPower ≤ lead then .infinite s
    else if 0 ≤ e then .ofQuotient s (m * tenTo e.toNat) 1
    else .ofQuotient s m (tenTo (-e).toNat)

/-- The nearest double. -/
def toFloat (t : FloatText) : Float := t.toBinary.toFloat

/-- The nearest single. -/
def toFloat32 (t : FloatText) : Float32 := t.toBinary.toFloat32

end FloatText

end Waterfall
