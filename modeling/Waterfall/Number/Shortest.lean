import Waterfall.Number.Decimal

/-!
# Shortest decimal text of a floating number

The fewest digits that read back to the number, and among those the nearest to it. The candidates
are the two neighbours of the number on a decimal grid; the coarsest grid on which one of them lies
in the rounding interval of the number decides. How digits become text (where exponents start,
whether a whole number keeps `.0`, which way an exact tie between candidates goes) is a `Style`.
-/

namespace Waterfall

/-- A positive decimal number `digits · 10^exponent`. -/
structure Decimal where
  digits : Nat
  exponent : Int
  deriving DecidableEq, Repr

/-- A precision: the bits of a mantissa and the least exponent. -/
structure Precision where
  bits : Nat
  leastExponent : Int

def Precision.single : Precision := ⟨24, -149⟩

def Precision.double : Precision := ⟨53, -1074⟩

namespace Shortest

/-- The interval of reals that round to a number, in quarters of its last place: the number itself,
its lower end and its upper end. Just above a power of two the lower neighbour is twice as near. -/
def interval (p : Precision) (m : Nat) (e : Int) : Nat × Nat × Nat :=
  let below := if m = twoTo (p.bits - 1) ∧ p.leastExponent < e then 1 else 2
  (4 * m, 4 * m - below, 4 * m + 2)

/-- The better of the two neighbours on the grid `10^k`, if one of them reads back to the number.
All quantities are multiples of the same unit `num / den` of the grid. -/
def onGrid (num den lo hi : Nat) (closed : Bool) (tie : Tie) : Option Nat :=
  let d := num / den
  let reaches (a b : Nat) : Bool := if closed then a ≤ b else a < b
  let below := reaches lo (d * den)
  let above := reaches ((d + 1) * den) hi
  match below, above with
  | false, false => none
  | true, false => some d
  | false, true => some (d + 1)
  | true, true =>
    -- On a point of the grid the next point may read back as well, but is no nearer.
    if num % den = 0 then some d else some (roundDiv num den tie)

/-- The number and both ends of its interval over a common denominator, in units of `10^k`. -/
def scaled (value lo hi : Nat) (e k : Int) : Nat × Nat × Nat × Nat :=
  let (pow, den) := quotient 1 (e - 2)
  if 0 ≤ k then (value * pow, den * tenTo k.toNat, lo * pow, hi * pow)
  else
    let t := tenTo (-k).toNat
    (value * pow * t, den, lo * pow * t, hi * pow * t)

/-- Tries the grids from `10^k` down, at most `fuel` of them. -/
def search (value lo hi : Nat) (e : Int) (closed : Bool) (tie : Tie) : Nat → Int → Decimal
  | 0, k => ⟨0, k⟩
  | fuel + 1, k =>
    let (num, den, a, b) := scaled value lo hi e k
    match onGrid num den a b closed tie with
    | some d => ⟨d, k⟩
    | none => search value lo hi e closed tie fuel (k - 1)

/-- Drops the zeros at the end of the digits. -/
def trim (fuel : Nat) (d : Decimal) : Decimal :=
  match fuel with
  | 0 => d
  | fuel + 1 => if d.digits ≠ 0 ∧ d.digits % 10 = 0 then trim fuel ⟨d.digits / 10, d.exponent + 1⟩ else d

/-- The shortest decimal that reads back to `m · 2^e`, for `0 < m`. Eighteen digits always do. -/
def ofMantissa (p : Precision) (tie : Tie) (m : Nat) (e : Int) : Decimal :=
  let (value, lo, hi) := interval p m e
  let (num, den) := quotient m e
  trim 18 (search value lo hi e (m % 2 = 0) tie 18 (magnitude num den))

/-- How digits are written. A number whose leading digit stands for `10^k` is positional when
`least ≤ k ≤ most`, and has an exponent otherwise. -/
structure Style where
  least : Option Int
  most : Option Int
  wholePoint : Bool
  tie : Tie

/-- Positional at every size, whole numbers bare, a tie goes up. -/
def Style.plain : Style := ⟨none, none, false, .up⟩

/-- JSON numbers of single precision. -/
def Style.jsonSingle : Style := ⟨some (-6), some 12, true, .toEven⟩

/-- JSON numbers of double precision. -/
def Style.jsonDouble : Style := ⟨some (-5), some 15, true, .toEven⟩

/-- Digits and a decimal exponent in positional notation. -/
def positional (style : Style) (digits : List Char) (exponent : Int) : List Char :=
  if 0 ≤ exponent then
    digits ++ List.replicate exponent.toNat '0' ++ (if style.wholePoint then ".0".toList else [])
  else pointBefore digits (-exponent).toNat

/-- Digits with one place before the point and a signed exponent of ten. -/
def withExponent (digits : List Char) (lead : Int) : List Char :=
  let mantissa := match digits with
    | d :: rest@(_ :: _) => d :: '.' :: rest
    | ds => ds
  mantissa ++ 'e' :: (if lead < 0 then '-' else '+') :: Digits.ofNat lead.natAbs

def writeDecimal (style : Style) (d : Decimal) : List Char :=
  let digits := Digits.ofNat d.digits
  let lead := d.exponent + digits.length - 1
  if style.least.all (· ≤ lead) && style.most.all (lead ≤ ·) then positional style digits d.exponent
  else withExponent digits lead

/-- The text of a value of the given precision. -/
def text (style : Style) (p : Precision) : Binary → List Char
  | .nan => "NaN".toList
  | .infinite s => (if s then "-inf" else "inf").toList
  | .finite s m e =>
    let body := if m = 0 then positional style ['0'] 0 else writeDecimal style (ofMantissa p style.tie m e)
    if s then '-' :: body else body

end Shortest

/-- The shortest positional text of a single. -/
def textOfSingle (x : Float32) : String :=
  .ofList (Shortest.text .plain .single (Binary.ofFloat32 x))

/-- The shortest positional text of a double. -/
def textOfDouble (x : Float) : String :=
  .ofList (Shortest.text .plain .double (Binary.ofFloat x))

/-- A single with exactly two places. -/
def twoPlaces (x : Float32) : String :=
  .ofList ((Binary.ofFloat32 x).fixed 2)

end Waterfall
