import Mathlib.Data.Rat.Floor
import Mathlib.Tactic.Linarith
import Waterfall.Layout.Label

/-!
# Labels cut to their room

With lengths as exact fractions, the number of characters that is computed for a room is the number that
fits into it: rounding down, the least width of a character, the bound of 64 bits and the zero that stands
for a negative room all come to one equivalence, `le_fitting_iff`. Two of these have to be asked for. A
character must not be narrower than the least width, and the text must be shorter than the bound, or more
characters would fit than are counted.

From the equivalence follows that a cut label is as long as possible (`Clips`): it fits with its ellipsis,
and with one character more it would not.
-/

namespace Waterfall.Label

variable {text : List Char} {room fontSize charWidth : ℚ}

/-! ## How many characters fit -/

/-- A character has at least the least width. -/
def IsWide (fontSize charWidth : ℚ) : Prop := 1 / 2 ^ 23 ≤ fontSize * charWidth

theorem IsWide.pos (h : IsWide fontSize charWidth) : 0 < fontSize * charWidth :=
  lt_of_lt_of_le (by norm_num) h

theorem textWidth_eq (text : List Char) (fontSize charWidth : ℚ) :
    textWidth text fontSize charWidth = text.length * (fontSize * charWidth) :=
  mul_assoc _ _ _

theorem le_eq (x y : ℚ) : Length.le x y = decide (x ≤ y) := rfl

theorem fitting_eq (h : IsWide fontSize charWidth) :
    fitting room fontSize charWidth = min ⌊room / (fontSize * charWidth)⌋.toNat (2 ^ 64 - 1) := by
  have hleast : (Length.leastWidth : ℚ) ≤ fontSize * charWidth := h
  have hlarger : Length.larger (fontSize * charWidth) (Length.leastWidth : ℚ) = fontSize * charWidth :=
    if_neg (not_lt.mpr hleast)
  rw [fitting, hlarger]
  rfl

/-- So many characters are counted exactly if they fit. -/
theorem le_fitting_iff (h : IsWide fontSize charWidth) {n : Nat} (hpos : 0 < n) (hbound : n < 2 ^ 64) :
    n ≤ fitting room fontSize charWidth ↔ n * (fontSize * charWidth) ≤ room := by
  have hcounted : n ≤ 2 ^ 64 - 1 := Nat.le_pred_of_lt hbound
  rw [fitting_eq h, le_min_iff, and_iff_left hcounted, Int.floor_toNat, Nat.le_floor_iff' hpos.ne',
    le_div_iff₀ h.pos]

/-! ## What is shown -/

/-- A label with some text of it and an ellipsis. -/
def withEllipsis (text : List Char) (kept : Nat) : List Char := text.take kept ++ [ellipsis]

theorem length_withEllipsis {kept : Nat} (h : kept ≤ text.length) :
    (withEllipsis text kept).length = kept + 1 := by
  simp [withEllipsis, h]

/-- A text that does not fit is cut to what does, or dropped. -/
theorem clip_cases (text : List Char) (room fontSize charWidth : ℚ) :
    (textWidth text fontSize charWidth ≤ room ∧ clip text room fontSize charWidth = (text, false)) ∨
    (room < textWidth text fontSize charWidth ∧ fitting room fontSize charWidth ≤ 1 ∧
      clip text room fontSize charWidth = ([], true)) ∨
    (room < textWidth text fontSize charWidth ∧ 1 < fitting room fontSize charWidth ∧
      clip text room fontSize charWidth =
        (withEllipsis text (fitting room fontSize charWidth - 1), true)) := by
  by_cases hfits : textWidth text fontSize charWidth ≤ room
  · exact .inl ⟨hfits, clip_of_fits (decide_eq_true hfits)⟩
  · have hwide : ¬ Length.le (textWidth text fontSize charWidth) room = true := by
      rwa [le_eq, decide_eq_true_iff]
    rw [clip, if_neg hwide]
    by_cases hfew : fitting room fontSize charWidth ≤ 1
    · exact .inr (.inl ⟨not_le.mp hfits, hfew, if_pos hfew⟩)
    · exact .inr (.inr ⟨not_le.mp hfits, not_le.mp hfew, if_neg hfew⟩)

/-- Of a text that is too wide, not all characters are counted, if any are. -/
theorem fitting_lt_length (h : IsWide fontSize charWidth) (hlength : text.length < 2 ^ 64)
    (hwide : room < textWidth text fontSize charWidth) (hsome : 0 < fitting room fontSize charWidth) :
    fitting room fontSize charWidth < text.length := by
  rw [textWidth_eq] at hwide
  have hone : 1 * (fontSize * charWidth) ≤ room := by
    exact_mod_cast (le_fitting_iff h (n := 1) (by norm_num) (by norm_num)).mp hsome
  have hpos : 0 < text.length := by
    rw [Nat.pos_iff_ne_zero]
    intro hzero
    rw [hzero, Nat.cast_zero, zero_mul] at hwide
    have hcharacter := h.pos
    linarith
  by_contra hle
  exact absurd ((le_fitting_iff h hpos hlength).mp (not_lt.mp hle)) (not_le.mpr hwide)

/-! ## Main statement -/

/-- What a label shows of a text in its room, and whether it is cut. -/
structure Clips (text : List Char) (room fontSize charWidth : ℚ) (shown : List Char) (cut : Bool) : Prop where
  fits : shown ≠ [] → textWidth shown fontSize charWidth ≤ room
  uncut_iff : cut = false ↔ shown = text ∧ textWidth text fontSize charWidth ≤ room
  /-- A part of the text is followed by the ellipsis, and the next larger part would not fit. -/
  longest : cut = true → shown ≠ [] → ∃ kept < text.length, shown = withEllipsis text kept ∧
    shown.length < text.length ∧ room < textWidth (withEllipsis text (kept + 1)) fontSize charWidth
  /-- Nothing is shown where the room is too small for two characters. -/
  dropped_iff : cut = true → (shown = [] ↔ room < 2 * fontSize * charWidth)

theorem clips_of_fits (hfits : textWidth text fontSize charWidth ≤ room) :
    Clips text room fontSize charWidth text false where
  fits _ := hfits
  uncut_iff := by simp [hfits]
  longest hcut := by simp at hcut
  dropped_iff hcut := by simp at hcut

theorem two_le_fitting_iff (h : IsWide fontSize charWidth) :
    2 ≤ fitting room fontSize charWidth ↔ 2 * fontSize * charWidth ≤ room := by
  rw [le_fitting_iff h (by norm_num) (by norm_num), mul_assoc]
  norm_num

theorem clips_of_fitting_le (h : IsWide fontSize charWidth) (hover : room < textWidth text fontSize charWidth)
    (hfew : fitting room fontSize charWidth ≤ 1) : Clips text room fontSize charWidth [] true where
  fits hshown := absurd rfl hshown
  uncut_iff := by simp [not_le.mpr hover]
  longest _ hshown := absurd rfl hshown
  dropped_iff _ := by
    have hnone : room < 2 * fontSize * charWidth := by
      rw [← not_le, ← two_le_fitting_iff h]
      omega
    exact iff_of_true rfl hnone

/-- With as many characters as fit before the ellipsis, the ellipsis still fits and one more character does
not. -/
theorem clips_of_lt_fitting (h : IsWide fontSize charWidth) (hlength : text.length < 2 ^ 64)
    (hover : room < textWidth text fontSize charWidth) (hsome : 1 < fitting room fontSize charWidth) :
    Clips text room fontSize charWidth (withEllipsis text (fitting room fontSize charWidth - 1)) true := by
  have hlt : fitting room fontSize charWidth < text.length := fitting_lt_length h hlength hover (by omega)
  have htwo : 2 * fontSize * charWidth ≤ room := (two_le_fitting_iff h).mp hsome
  have hmost : ∀ n, 0 < n → n ≤ text.length →
      (n ≤ fitting room fontSize charWidth ↔ n * (fontSize * charWidth) ≤ room) := by
    intro n hpos hn
    exact le_fitting_iff h hpos (hn.trans_lt hlength)
  obtain ⟨kept, hkept⟩ : ∃ kept, fitting room fontSize charWidth = kept + 1 :=
    Nat.exists_eq_succ_of_ne_zero (by omega)
  rw [hkept] at hmost hlt
  rw [hkept, Nat.add_sub_cancel]
  have hshown : (withEllipsis text kept).length = kept + 1 := length_withEllipsis (by omega)
  have hlonger : (withEllipsis text (kept + 1)).length = kept + 2 := length_withEllipsis hlt.le
  refine ⟨?fits, ?uncut, ?longest, ?dropped⟩
  case fits =>
    intro _
    rw [textWidth_eq, hshown]
    exact (hmost (kept + 1) (by omega) hlt.le).mp le_rfl
  case uncut => simp [not_le.mpr hover]
  case longest =>
    intro _ _
    refine ⟨kept, by omega, rfl, ?_, ?_⟩
    · rwa [hshown]
    · rw [textWidth_eq, hlonger, ← not_le]
      intro hfits
      have hmore : kept + 2 ≤ kept + 1 := (hmost (kept + 2) (by omega) hlt).mpr hfits
      omega
  case dropped =>
    intro _
    exact iff_of_false (List.append_ne_nil_of_right_ne_nil _ (List.cons_ne_nil _ _)) (not_lt.mpr htwo)

/-- **A label is cut as little as its room allows.** A text that fits is shown whole. Of any other as many
characters are shown as fit before an ellipsis, and nothing if that would leave the ellipsis alone. -/
theorem clip_longest (text : List Char) (room fontSize charWidth : ℚ) (hlength : text.length < 2 ^ 64)
    (hwide : IsWide fontSize charWidth) :
    Clips text room fontSize charWidth (clip text room fontSize charWidth).1
      (clip text room fontSize charWidth).2 := by
  rcases clip_cases text room fontSize charWidth with ⟨hfits, hclip⟩ | ⟨hover, hfew, hclip⟩ |
    ⟨hover, hsome, hclip⟩
  · rw [hclip]
    exact clips_of_fits hfits
  · rw [hclip]
    exact clips_of_fitting_le hwide hover hfew
  · rw [hclip]
    exact clips_of_lt_fitting hwide hlength hover hsome

/-- Fourteen characters in a room for five. -/
theorem queryLabel_clipped :
    "/sql/qq/select".toList.length < 2 ^ 64 ∧ IsWide 12 (3 / 5) ∧
      clip "/sql/qq/select".toList (40 : ℚ) 12 (3 / 5) = ("/sql…".toList, true) ∧
      Clips "/sql/qq/select".toList 40 12 (3 / 5) "/sql…".toList true := by
  have hlength : "/sql/qq/select".toList.length < 2 ^ 64 := by decide
  have hwide : IsWide 12 (3 / 5) := by norm_num [IsWide]
  have hclip : clip "/sql/qq/select".toList (40 : ℚ) 12 (3 / 5) = ("/sql…".toList, true) := by decide +kernel
  have hclips := clip_longest "/sql/qq/select".toList 40 12 (3 / 5) hlength hwide
  rw [hclip] at hclips
  exact ⟨hlength, hwide, hclip, hclips⟩

end Waterfall.Label
