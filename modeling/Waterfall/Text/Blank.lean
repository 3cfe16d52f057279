/-!
# Blank characters

White space of any script, and trimming it off both ends of a text.
-/

namespace Waterfall

/-- White space: the ASCII blanks, next line, the no-break and the typographic spaces, and the line
and paragraph separators. -/
def isBlank (c : Char) : Bool :=
  let n := c.toNat
  (9 ≤ n && n ≤ 13) || n == 0x20 || n == 0x85 || n == 0xa0 || n == 0x1680 ||
    (0x2000 ≤ n && n ≤ 0x200a) || n == 0x2028 || n == 0x2029 || n == 0x202f || n == 0x205f ||
    n == 0x3000

/-- A text without the blanks at its ends. -/
def trimBlank (cs : List Char) : List Char :=
  ((cs.dropWhile isBlank).reverse.dropWhile isBlank).reverse

/-- Blanks alone trim to nothing. -/
theorem trimBlank_of_all {cs : List Char} (h : ∀ c ∈ cs, isBlank c = true) : trimBlank cs = [] := by
  have : cs.dropWhile isBlank = [] := by
    induction cs with
    | nil => rfl
    | cons c r ih => simp_all
  simp [trimBlank, this]

end Waterfall
