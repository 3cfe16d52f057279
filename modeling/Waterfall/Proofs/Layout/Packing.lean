import Mathlib.Data.List.Chain
import Waterfall.Proofs.Layout.Growth
import Waterfall.Proofs.Number.SingleOrder

/-!
# Chips packed in lines

A legend is packed greedily. Each chip stands beside the one before it, with a gap, unless it would end
past the right margin there; then it starts the next line. A chip at the left margin is never moved on,
however wide it is, so in a container that is narrower than its padding each line has one chip.

`IsPacked` says this of a list of chips by its neighbours only, with no running position. It leaves no
freedom: the first chip is where the legend starts and every other one is placed by the chip before it, so
just one list is packed (`isPacked_iff`). What is said of lengths is equalities of singles and the one
comparison, so it holds of all widths and margins, those that are no numbers included. Where the margins
are and how far apart lines and chips stand follows from the settings (`IsMeasured`).
-/

namespace Waterfall

/-- Where a chip stands. -/
def Chip.corner (c : Chip) : Point := ⟨c.x, c.y⟩

namespace Legend

variable {m : Measures} {width : String → Float32} {x y : Float32} {entries : List (String × String)}

/-! ## A chip and the next one -/

/-- A chip of that width at `x` stands right of the left margin and ends past the right one. -/
def PastMargin (m : Measures) (x width : Float32) : Prop := m.startX < x ∧ m.maxX < x + width

instance (m : Measures) (x width : Float32) : Decidable (PastMargin m x width) :=
  inferInstanceAs (Decidable (m.startX < x ∧ m.maxX < x + width))

/-- Where a chip starts that stays on the line of this one. -/
def besideX (m : Measures) (c : Chip) : Float32 := c.x + (c.width + m.gap)

/-- The second chip starts the line below the first one if it would end past the margin beside it, and
stands beside it otherwise. -/
def Follows (m : Measures) (c d : Chip) : Prop :=
  d.corner = if PastMargin m (besideX m c) d.width then ⟨m.startX, c.y + m.lineHeight⟩ else ⟨besideX m c, c.y⟩

theorem not_pastMargin_startX (m : Measures) (w : Float32) : ¬ PastMargin m m.startX w :=
  fun h => Single.lt_irrefl m.startX h.1

theorem place_eq (m : Measures) (x y w : Float32) :
    place m x y w = if PastMargin m x w then ⟨m.startX, y + m.lineHeight⟩ else ⟨x, y⟩ := by
  have hoverflows : overflows m x w = true ↔ PastMargin m x w := by
    simp only [overflows, PastMargin, Bool.and_eq_true, decide_eq_true_eq]
  by_cases hpast : PastMargin m x w
  · rw [place, if_pos (hoverflows.mpr hpast), if_pos hpast]
  · rw [place, if_neg (mt hoverflows.mp hpast), if_neg hpast]

theorem follows_iff {c d : Chip} : Follows m c d ↔ d.corner = place m (besideX m c) c.y d.width := by
  rw [Follows, place_eq]

/-- The first place of a legend has room for any chip. -/
theorem place_startX (m : Measures) (y w : Float32) : place m m.startX y w = ⟨m.startX, y⟩ := by
  rw [place_eq, if_neg (not_pastMargin_startX m w)]

/-- Wherever a chip would start, it is placed at the left margin or short of the right one. -/
theorem place_withinMargin (m : Measures) (x y w : Float32) :
    (place m x y w).x = m.startX ∨ ¬ PastMargin m (place m x y w).x w := by
  rw [place_eq]
  split_ifs with hpast
  · exact .inl rfl
  · exact .inr hpast

/-! ## All chips -/

/-- The chips show the entries in order, and each has its place from the one before it, the first of them
from a given point. -/
structure IsPackedFrom (m : Measures) (width : String → Float32) (x y : Float32)
    (entries : List (String × String)) (chips : List Chip) : Prop where
  entries_eq : chips.map (fun c => (c.actor, c.color)) = entries
  sized : ∀ c ∈ chips, c.width = width c.actor ∧ c.height = m.chipHeight
  first : ∀ c ∈ chips.head?, c.corner = place m x y c.width
  chain : chips.IsChain (Follows m)

/-- Placing a chip and going on beside it, each chip follows the one that was just placed. -/
theorem isPackedFrom_chipsFrom (m : Measures) (width : String → Float32) (x y : Float32)
    (entries : List (String × String)) :
    IsPackedFrom m width x y entries (chipsFrom m width x y entries) := by
  induction entries generalizing x y with
  | nil => exact ⟨rfl, by simp [chipsFrom], by simp [chipsFrom], List.isChain_nil⟩
  | cons e rest ih =>
    -- The rest starts beside the chip just placed, on its line, which is what `Follows` asks of the next.
    obtain ⟨hentries, hsized, hfirst, hchain⟩ :=
      ih (x := (place m x y (width e.1)).x + (width e.1 + m.gap)) (y := (place m x y (width e.1)).y)
    refine ⟨?_, ?_, ?_, ?_⟩
    · simp [chipsFrom, hentries]
    · intro c hc
      rcases List.mem_cons.mp hc with rfl | hc
      · exact ⟨rfl, rfl⟩
      · exact hsized c hc
    · intro c hc
      obtain rfl := Option.mem_some.mp hc
      rfl
    · refine List.isChain_cons.mpr ⟨?_, hchain⟩
      intro d hd
      rw [follows_iff, hfirst d hd]
      rfl

/-- The chips before it determine the place of each chip. -/
theorem IsPackedFrom.eq_chipsFrom {chips : List Chip} (h : IsPackedFrom m width x y entries chips) :
    chips = chipsFrom m width x y entries := by
  induction chips generalizing x y entries with
  | nil =>
    obtain rfl := h.entries_eq
    rfl
  | cons c rest ih =>
    obtain ⟨hnext, hrest⟩ := List.isChain_cons.mp h.chain
    obtain ⟨hwidth, hheight⟩ := h.sized c List.mem_cons_self
    have hcorner : place m x y c.width = c.corner := (h.first c rfl).symm
    have htail : IsPackedFrom m width (besideX m c) c.y (rest.map fun d => (d.actor, d.color)) rest :=
      ⟨rfl, fun d hd => h.sized d (List.mem_cons_of_mem c hd), fun d hd => follows_iff.mp (hnext d hd), hrest⟩
    rw [← h.entries_eq, List.map_cons, chipsFrom]
    simp only [← hwidth, ← hheight, hcorner]
    exact congrArg (c :: ·) (ih htail)

/-! ## Main statement -/

/-- What the measures of a legend are of the settings and of the width of the container. -/
structure IsMeasured (m : Measures) (containerWidth : Float32) (theme : Theme) (config : LayoutConfig) :
    Prop where
  chipHeight : m.chipHeight = theme.fontSize + config.legendChipPadding * 2
  lineHeight : Single.IsLarger m.chipHeight config.legendHeight m.lineHeight
  startX : m.startX = config.containerPadding / 2
  maxX : Single.IsLarger (containerWidth - m.startX) m.startX m.maxX
  gap : m.gap = config.legendGap

theorem isMeasured_measures (containerWidth : Float32) (theme : Theme) (config : LayoutConfig) :
    IsMeasured (measures containerWidth theme config) containerWidth theme config where
  chipHeight := rfl
  lineHeight := Single.isLarger_larger _ _
  startX := rfl
  maxX := Single.isLarger_larger _ _
  gap := rfl

/-- The chips show the entries in order, packed in lines from the top of the left margin on. -/
structure IsPacked (m : Measures) (width : String → Float32) (entries : List (String × String))
    (chips : List Chip) : Prop where
  entries_eq : chips.map (fun c => (c.actor, c.color)) = entries
  sized : ∀ c ∈ chips, c.width = width c.actor ∧ c.height = m.chipHeight
  first : ∀ c ∈ chips.head?, c.corner = ⟨m.startX, 0⟩
  follows : ∀ i c d, chips[i]? = some c → chips[i + 1]? = some d → Follows m c d
  withinMargin : ∀ c ∈ chips, c.x = m.startX ∨ ¬ PastMargin m c.x c.width

theorem IsPackedFrom.follows {chips : List Chip} (h : IsPackedFrom m width x y entries chips) {i : Nat}
    {c d : Chip} (hc : chips[i]? = some c) (hd : chips[i + 1]? = some d) : Follows m c d := by
  obtain ⟨hi, rfl⟩ := List.getElem?_eq_some_iff.mp hc
  obtain ⟨hi', rfl⟩ := List.getElem?_eq_some_iff.mp hd
  exact List.isChain_iff_getElem.mp h.chain i hi'

/-- Every chip was placed, the first one like all others. -/
theorem IsPackedFrom.exists_place {chips : List Chip} (h : IsPackedFrom m width x y entries chips) {c : Chip}
    (hc : c ∈ chips) : ∃ x' y', c.corner = place m x' y' c.width := by
  obtain ⟨i, hi⟩ := List.mem_iff_getElem?.mp hc
  cases i with
  | zero => exact ⟨x, y, h.first c (by rwa [List.head?_eq_getElem?])⟩
  | succ i =>
    obtain ⟨b, hb⟩ : ∃ b, chips[i]? = some b :=
      ⟨_, List.getElem?_eq_getElem (Nat.lt_of_succ_lt (List.getElem?_eq_some_iff.mp hi).1)⟩
    exact ⟨_, _, follows_iff.mp (h.follows hb hi)⟩

theorem isPacked_iff {chips : List Chip} :
    IsPacked m width entries chips ↔ chips = chipsFrom m width m.startX 0 entries := by
  constructor
  · rintro ⟨hentries, hsized, hfirst, hfollows, -⟩
    have hchain : chips.IsChain (Follows m) := List.isChain_iff_getElem.mpr fun i hi =>
      hfollows i _ _ (List.getElem?_eq_getElem (Nat.lt_of_succ_lt hi)) (List.getElem?_eq_getElem hi)
    have hplaced : ∀ c ∈ chips.head?, c.corner = place m m.startX 0 c.width := by
      intro c hc
      rw [place_startX, hfirst c hc]
    exact IsPackedFrom.eq_chipsFrom ⟨hentries, hsized, hplaced, hchain⟩
  · rintro rfl
    have h := isPackedFrom_chipsFrom m width m.startX 0 entries
    refine ⟨h.entries_eq, h.sized, ?_, fun _ _ _ => h.follows, ?_⟩
    · intro c hc
      rw [h.first c hc, place_startX]
    · intro c hc
      obtain ⟨x', y', hplace⟩ := h.exists_place hc
      have hx : c.x = (place m x' y' c.width).x := congrArg Point.x hplace
      rw [hx]
      exact place_withinMargin m x' y' c.width

/-- **A legend is packed greedily, and stays so when actors are added.** The chips of a legend are the one
list that is packed between its margins, whatever the lengths are, where a chip is as wide as the text of
its actor and the padding on both sides of it. The chips of actors that come later stand behind them,
without moving any. -/
theorem chips_packed (colors : ActorColors) (containerWidth : Float32) (theme : Theme) (config : LayoutConfig) :
    IsMeasured (measures containerWidth theme config) containerWidth theme config ∧
    (∀ l, IsPacked (measures containerWidth theme config)
        (fun actor => singleOfInt actor.toList.length * theme.fontSize * config.labelCharWidth +
          config.legendChipPadding * 2) colors.entries l ↔
      l = chips colors containerWidth theme config) ∧
    (∀ more : ActorColors, colors.entries <+: more.entries →
      chips colors containerWidth theme config <+: chips more containerWidth theme config) ∧
    ∀ palette actors, chips colors containerWidth theme config <+:
      chips (colors.assignAll palette actors) containerWidth theme config := by
  have hgrows : ∀ more : ActorColors, colors.entries <+: more.entries →
      chips colors containerWidth theme config <+: chips more containerWidth theme config := by
    intro more hmore
    exact isPrefix_chips hmore containerWidth theme config
  refine ⟨isMeasured_measures containerWidth theme config, fun _ => isPacked_iff, hgrows, ?_⟩
  intro palette actors
  exact hgrows _ (ActorColors.entries_isPrefix_assignAll palette colors actors)

/-- Three actors in the colours of the classic theme. -/
def threeActors : ActorColors :=
  (⟨[], [], fun _ => rfl⟩ : ActorColors).assignAll Theme.classic.palette ["Gateway", "Orders", "Billing"]

/-- Two chips share a line; the third one would end past the margin at 175. -/
theorem threeActors_packed :
    IsMeasured (measures 200 .classic {}) 200 .classic {} ∧
      IsPacked (measures 200 .classic {})
        (fun actor => singleOfInt actor.toList.length * 12 * 0.6 + 7 * 2)
        threeActors.entries (chips threeActors 200 .classic {}) ∧
      (chips threeActors 200 .classic {}).map (fun c => (c.actor, c.x, c.y, c.width, c.height)) =
        [("Gateway", 25, 0, 64.4, 26), ("Orders", 97.4, 0, 57.2, 26), ("Billing", 25, 32, 64.4, 26)] := by
  obtain ⟨hmeasured, hpacked, -⟩ := chips_packed threeActors 200 .classic {}
  exact ⟨hmeasured, (hpacked _).mpr rfl, by decide +kernel⟩

end Legend

end Waterfall
