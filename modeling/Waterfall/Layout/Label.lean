import Waterfall.Config.Basic

/-!
# Labels

The width of a text is estimated from its number of characters. A label that is wider than the room
it has is cut between characters and ends in an ellipsis; with room for less than two characters it
is dropped.

The estimate is stated for any arithmetic (`Length`): single precision, which the layout uses, and
exact fractions.
-/

namespace Waterfall

/-- The arithmetic of lengths. -/
class Length (α : Type) extends Mul α, Div α where
  ofCount : Nat → α
  le : α → α → Bool
  larger : α → α → α
  /-- The least width a character is taken to have. -/
  leastWidth : α
  /-- The whole part of a length, zero when negative, within 64 bits. -/
  wholePart : α → Nat

/-- The distance from one to the next larger single. -/
def singleEpsilon : Float32 := Float32.ofBits 0x34000000

instance : Length Float32 where
  ofCount n := singleOfInt n
  le x y := x ≤ y
  larger := Waterfall.larger
  leastWidth := singleEpsilon
  wholePart x := ((Binary.ofFloat32 x).clampToInt 0 (twoTo 64 - 1)).toNat

instance : Length Rat where
  ofCount n := n
  le x y := x ≤ y
  larger x y := if x < y then y else x
  leastWidth := 1 / twoTo 23
  wholePart x := min x.floor.toNat (twoTo 64 - 1)

namespace Label

variable {α : Type} [Length α]

/-- The estimated width of a text. -/
def textWidth (text : List Char) (fontSize charWidth : α) : α :=
  Length.ofCount text.length * fontSize * charWidth

/-- How many characters fit into a width. -/
def fitting (room fontSize charWidth : α) : Nat :=
  Length.wholePart (room / Length.larger (fontSize * charWidth) Length.leastWidth)

def ellipsis : Char := '…'

/-- A text cut to the room it has, and whether it was cut. -/
def clip (text : List Char) (room fontSize charWidth : α) : List Char × Bool :=
  if Length.le (textWidth text fontSize charWidth) room then (text, false)
  else
    let fit := fitting room fontSize charWidth
    -- With room for one character only the ellipsis would be left.
    if fit ≤ 1 then ([], true) else (text.take (fit - 1) ++ [ellipsis], true)

/-- A text that fits is left as it is. -/
theorem clip_of_fits {text : List Char} {room fontSize charWidth : α}
    (h : Length.le (textWidth text fontSize charWidth) room = true) :
    clip text room fontSize charWidth = (text, false) := by
  simp [clip, h]

end Label

end Waterfall
