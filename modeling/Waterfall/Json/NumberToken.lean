import Waterfall.Json.Basic
import Waterfall.Json.Fault
import Waterfall.Number.Decade

/-!
# Numbers in a JSON text

A number without fraction and exponent is whole when it fits in 64 bits. Every other number is a
double made from a significand of at most 64 bits and a power of ten: the digits that no longer fit
are dropped, those before the point counting one power each, and the significand is then multiplied
or divided once by the power, or divided by `10^308` as often as needed first. A number beyond the
largest double is out of range.
-/

namespace Waterfall.Json

/-- The largest significand. -/
def mostSignificand : Nat := twoTo 64 - 1

/-- Appends digits to a significand while it fits; the count of digits taken comes with it. -/
def appendDigits : Nat → List Char → Nat × Nat
  | n, [] => (n, 0)
  | n, d :: ds =>
    let next := 10 * n + (Digits.value? d).getD 0
    if mostSignificand < next then (n, 0)
    else
      let (m, taken) := appendDigits next ds
      (m, taken + 1)

/-- Divides by a power of ten, in steps of `10^308` while the power is larger than that. -/
def divideByPower (f : Float) (power : Nat) : Float :=
  if power ≤ 308 then f / tenPower power
  else if f == 0 then f
  else divideByPower (f / tenPower 308) (power - 308)
termination_by power

/-- A significand times a power of ten, if it is not beyond the largest double. -/
def fromParts (significand : Nat) (power : Int) : Option Float :=
  let f := doubleOfInt significand
  if power < 0 then some (divideByPower f power.natAbs)
  else if 308 < power then if f == 0 then some f else none
  else
    let x := f * tenPower power
    if x.isInf then none else some x

/-- The largest exponent that is read as such. -/
def mostExponent : Nat := twoTo 31 - 1

/-- How many digits it takes to pass the largest exponent. -/
def digitsPastExponent (ds : List Char) : Nat :=
  ((List.range (ds.length + 1)).find? fun n => mostExponent < Digits.toNat (ds.take n)).getD ds.length

/-- A double with the given sign. -/
def signed (negative : Bool) (x : Float) : Float := if negative then -x else x

/-- The number made of a significand and a power of ten. -/
def scaled (negative : Bool) (significand : Nat) (power : Int) : Reader JsonNumber := fun cs =>
  match fromParts significand power with
  | some x => .ok (.double (signed negative x), cs)
  | none => .error ⟨.numberOutOfRange, byteCount cs⟩

/-- The sign of an exponent, `true` for minus. -/
def exponentSign : List Char → Bool × List Char
  | '+' :: rest => (false, rest)
  | '-' :: rest => (true, rest)
  | rest => (false, rest)

/-- The exponent after its letter, applied to the number read so far. -/
def withExponent (negative : Bool) (significand : Nat) (power : Int) : Reader JsonNumber := fun cs =>
  let (down, cs) := exponentSign cs
  let (ds, rest) := cs.span Digits.isDigit
  if ds.isEmpty then
    match cs with
    | [] => .error ⟨.endInValue, 0⟩
    | _ => .error ⟨.invalidNumber, byteCount cs - 1⟩
  else
    let e := Digits.toNat ds
    if mostExponent < e then
      -- Zero stays zero, and a power this far down leaves nothing of any significand.
      if significand ≠ 0 ∧ !down then
        .error ⟨.numberOutOfRange, byteCount rest + (ds.length - digitsPastExponent ds)⟩
      else .ok (.double (signed negative 0), rest)
    else scaled negative significand (if down then power - e else power + e) rest

/-- Whether a text goes on with an exponent. -/
def exponent? : List Char → Option (List Char)
  | 'e' :: rest => some rest
  | 'E' :: rest => some rest
  | _ => none

/-- The fraction after its point, appended to the number read so far. -/
def withFraction (negative : Bool) (significand : Nat) (power : Int) : Reader JsonNumber := fun cs =>
  let (ds, rest) := cs.span Digits.isDigit
  if ds.isEmpty then
    match rest with
    | [] => .error ⟨.endInValue, 0⟩
    | _ => .error ⟨.invalidNumber, byteCount rest - 1⟩
  else
    let (significand, taken) := appendDigits significand ds
    let power := power - taken
    match exponent? rest with
    | some rest => withExponent negative significand power rest
    | none => scaled negative significand power rest

/-- A whole number, or minus zero and what is too large for 64 bits as a double. -/
def wholeNumber (negative : Bool) (n : Nat) : JsonNumber :=
  if negative then
    if n = 0 ∨ twoTo 63 < n then .double (-(doubleOfInt n)) else .whole (-n)
  else .whole n

/-- The number that goes on after its whole digits. -/
def afterWhole (negative : Bool) (ds : List Char) : Reader JsonNumber := fun cs =>
  let (significand, taken) := appendDigits 0 ds
  let dropped := ds.length - taken
  match cs with
  | '.' :: rest => withFraction negative significand dropped rest
  | _ =>
    match exponent? cs with
    | some rest => withExponent negative significand dropped rest
    | none =>
      if dropped = 0 then .ok (wholeNumber negative significand, cs)
      else scaled negative significand dropped cs

/-- A number after its sign. -/
def numberAfterSign (negative : Bool) : Reader JsonNumber := fun cs =>
  match cs with
  | [] => .error ⟨.endInValue, 0⟩
  | c :: rest =>
    if c = '0' then
      match rest with
      | d :: _ => if Digits.isDigit d then .error ⟨.invalidNumber, byteCount rest - 1⟩
          else afterWhole negative [c] rest
      | [] => afterWhole negative [c] rest
    else if Digits.isDigit c then
      let (ds, rest) := cs.span Digits.isDigit
      afterWhole negative ds rest
    else .error ⟨.invalidNumber, byteCount cs - 1⟩

/-- Passes over an exponent after its letter. -/
def skipExponent : Reader Unit := fun cs =>
  let (_, cs) := exponentSign cs
  let (ds, rest) := cs.span Digits.isDigit
  if ds.isEmpty then .error ⟨.invalidNumber, byteCount cs - 1⟩ else .ok ((), rest)

/-- Passes over what follows the whole digits of a number. -/
def skipAfterWhole : Reader Unit := fun cs =>
  match cs with
  | '.' :: rest =>
    let (ds, rest) := rest.span Digits.isDigit
    if ds.isEmpty then .error ⟨.invalidNumber, byteCount rest - 1⟩
    else
      match exponent? rest with
      | some rest => skipExponent rest
      | none => .ok ((), rest)
  | _ =>
    match exponent? cs with
    | some rest => skipExponent rest
    | none => .ok ((), cs)

/-- Passes over a number after its sign, whatever its size. -/
def skipNumber : Reader Unit := fun cs =>
  match cs with
  | [] => .error ⟨.invalidNumber, 0⟩
  | c :: rest =>
    if c = '0' then
      match rest with
      | d :: _ => if Digits.isDigit d then .error ⟨.invalidNumber, byteCount rest - 1⟩
          else skipAfterWhole rest
      | [] => skipAfterWhole rest
    else if Digits.isDigit c then skipAfterWhole (cs.dropWhile Digits.isDigit)
    else .error ⟨.invalidNumber, byteCount cs - 1⟩

end Waterfall.Json
