import Waterfall.Number.Binary
import Waterfall.Number.Tie

/-!
# Decimal digits

Digits of natural numbers, the decimal magnitude of a quotient, and the texts built from digits:
positional, with an exponent, and with a fixed number of places. `Digits.ofNat` and `Digits.toNat`
are the two directions between a number and its digits.
-/

namespace Waterfall

namespace Digits

/-- The character of one decimal digit. -/
def char (d : Nat) : Char := Char.ofNat (48 + d % 10)

/-- The value of a decimal digit. -/
def value? (c : Char) : Option Nat :=
  if '0' ≤ c ∧ c ≤ '9' then some (c.toNat - 48) else none

def isDigit (c : Char) : Bool := '0' ≤ c && c ≤ '9'

/-- The decimal digits of a natural number, no leading zero but for `0` itself. -/
def ofNat (n : Nat) : List Char :=
  if n < 10 then [char n] else ofNat (n / 10) ++ [char n]
termination_by n

/-- The value of a run of digits; other characters count as zero. -/
def toNat (cs : List Char) : Nat :=
  cs.foldl (fun n c => 10 * n + (value? c).getD 0) 0

/-- How many decimal digits a natural number has. -/
def count (n : Nat) : Nat := (ofNat n).length

/-- A whole number in decimal, with a minus sign when negative. -/
def ofInt (n : Int) : List Char :=
  if n < 0 then '-' :: ofNat n.natAbs else ofNat n.natAbs

theorem toNat_append_singleton (cs : List Char) (c : Char) :
    toNat (cs ++ [c]) = 10 * toNat cs + (value? c).getD 0 := by
  simp [toNat]

theorem value?_char : ∀ d : Fin 10, value? (char d.1) = some d.1 := by decide

/-- The digits of a number read back to it. -/
theorem toNat_ofNat (n : Nat) : toNat (ofNat n) = n := by
  induction n using Nat.strongRecOn with
  | ind n ih =>
    have hchar : value? (char n) = some (n % 10) := by
      have h := value?_char ⟨n % 10, Nat.mod_lt _ (by decide)⟩
      simpa [char, Nat.mod_mod] using h
    unfold ofNat
    split
    · simp [toNat, hchar]; omega
    · rw [toNat_append_singleton, ih (n / 10) (by omega), hchar]
      simp; omega

end Digits

/-- The exponent `k` of the leading decimal digit of `num / den`: `10^k ≤ num / den < 10^(k+1)`. -/
def magnitude (num den : Nat) : Int :=
  if den ≤ num then (Digits.count (num / den) : Int) - 1 else -(Digits.count ((den - 1) / num) : Int)

/-- A mantissa and a binary exponent as a quotient of natural numbers. -/
def quotient (m : Nat) (e : Int) : Nat × Nat :=
  if 0 ≤ e then (m * twoTo e.toNat, 1) else (m, twoTo (-e).toNat)

/-- Digits with the decimal point before the last `places` of them, filled with zeros as needed. -/
def pointBefore (digits : List Char) (places : Nat) : List Char :=
  let all := List.replicate (places + 1 - digits.length) '0' ++ digits
  if places = 0 then all else all.take (all.length - places) ++ '.' :: all.drop (all.length - places)

/-- A number with a fixed count of places: the exact value is rounded, a half to the even
neighbour, and the sign stays even where every digit written is zero. -/
def Binary.fixed (places : Nat) : Binary → List Char
  | .nan => "NaN".toList
  | .infinite s => (if s then "-inf" else "inf").toList
  | .finite s m e =>
    let (num, den) := quotient m e
    let body := pointBefore (Digits.ofNat (roundDiv (num * tenTo places) den .toEven)) places
    if s then '-' :: body else body

end Waterfall
