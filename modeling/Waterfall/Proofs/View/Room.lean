import Waterfall.Proofs.Number.SingleOrder
import Waterfall.Proofs.View.Coherence

/-!
# Resizing and the room for the chart

A view refuses a width that leaves at most zero for the chart. That is not the same as taking a width only
if it leaves more than zero: a chart width that is no number is neither, so the view takes it and has no
room for the chart. This happens exactly if the container width or the padding is no number, or if both
are the same infinity. With every other width that it takes, a view has room
(`resize_takes_room_or_nan`), and keeps it (`HasRoom.run`).
-/

namespace Waterfall

/-- The chart width is no number if one of its terms is none or both are the same infinity. -/
theorem LayoutConfig.isNaN_chartWidth_iff {config : LayoutConfig} {w : Float32} :
    (config.chartWidth w).isNaN ↔
      w.isNaN ∨ config.containerPadding.isNaN ∨ (w.isInf ∧ w == config.containerPadding) :=
  Single.isNaN_sub_iff

namespace TraceView

/-- The view has room for a chart. -/
def HasRoom (v : TraceView) : Prop := 0 < v.config.chartWidth v.containerWidth

/-! ## What a resize takes -/

theorem tooNarrow_eq_false_iff {config : LayoutConfig} {w : Float32} :
    tooNarrow config w = false ↔ 0 < config.chartWidth w ∨ (config.chartWidth w).isNaN := by
  have hzero : (0 : Float32).isNaN = false := by decide
  rw [tooNarrow, decide_eq_false_iff_not, Single.not_le_iff, hzero]
  simp

theorem fst_resize_eq_true_iff {v : TraceView} {w : Float32} :
    (v.resize w).1 = true ↔ 0 < v.config.chartWidth w ∨ (v.config.chartWidth w).isNaN := by
  rw [← tooNarrow_eq_false_iff, resize]
  split <;> simp_all

theorem snd_resize_of_taken {v : TraceView} {w : Float32} (h : (v.resize w).1 = true) :
    (v.resize w).2 = refreshed { v with containerWidth := w } := by
  rcases resize_cases v w with hcase | hcase
  · simp [hcase] at h
  · rw [hcase]

/-- A view that took a width has room exactly if the chart width is a number. -/
theorem hasRoom_snd_resize_iff {v : TraceView} {w : Float32} (h : (v.resize w).1 = true) :
    (v.resize w).2.HasRoom ↔ (v.config.chartWidth w).isNaN = false := by
  have hroom : (v.resize w).2.HasRoom ↔ 0 < v.config.chartWidth w := by
    rw [snd_resize_of_taken h]
    rfl
  rw [hroom]
  constructor
  · exact fun hpositive => (Single.isNaN_of_lt hpositive).2
  · intro hnumber
    exact (fst_resize_eq_true_iff.mp h).resolve_right (ne_true_of_eq_false hnumber)

/-! ## Runs -/

/-- Room is lost by no change but a resize to a chart width that is no number. -/
theorem HasRoom.changed {v : TraceView} (h : v.HasRoom) {c : Change}
    (hnumber : ∀ w, c = .resize w → (v.config.chartWidth w).isNaN = false) : (v.changed c).HasRoom := by
  cases c with
  | resize w =>
    show (v.resize w).2.HasRoom
    cases htaken : (v.resize w).1 with
    | false => rwa [snd_resize_of_refused htaken]
    | true => exact (hasRoom_snd_resize_iff htaken).mpr (hnumber w rfl)
  | selectTrace spans => exact h
  | selectSpan id =>
    show (v.selectSpan id).2.HasRoom
    rcases selectSpan_cases v id with hcase | ⟨s, -, -, hcase⟩ <;> rw [hcase] <;> exact h
  | clearSelection => exact h

/-- A view with room for its chart keeps it, as long as every chart width that is asked for is a number. -/
theorem HasRoom.run {v : TraceView} (h : v.HasRoom) {changes : List Change}
    (hnumbers : ∀ w, .resize w ∈ changes → (v.config.chartWidth w).isNaN = false) :
    (v.run changes).HasRoom := by
  induction changes generalizing v with
  | nil => exact h
  | cons c rest ih =>
    rw [run_cons]
    refine ih (h.changed fun w hw => hnumbers w (hw ▸ List.mem_cons_self)) fun w hw => ?_
    rw [(settings_changed v c).2]
    exact hnumbers w (List.mem_cons_of_mem c hw)

/-! ## Main statement -/

/-- What a resize to this width does to the view. -/
structure Resizes (v : TraceView) (w : Float32) : Prop where
  taken_iff : (v.resize w).1 = true ↔ 0 < v.config.chartWidth w ∨ (v.config.chartWidth w).isNaN
  nan_iff : (v.config.chartWidth w).isNaN ↔ w.isNaN ∨ v.config.containerPadding.isNaN ∨
    (w.isInf ∧ w == v.config.containerPadding)
  taken : (v.resize w).1 = true → (v.resize w).2 = refreshed { v with containerWidth := w }
  hasRoom_iff : (v.resize w).1 = true → ((v.resize w).2.HasRoom ↔ (v.config.chartWidth w).isNaN = false)
  refused : (v.resize w).1 = false → (v.resize w).2 = v

/-- **A resize leaves room for the chart, unless the chart width is no number.** A view takes a width
exactly if the chart width is more than zero or no number, and any other width leaves it as it is. Having
taken a width, the view has room exactly if the chart width is a number. -/
theorem resize_takes_room_or_nan (v : TraceView) (w : Float32) : v.Resizes w where
  taken_iff := fst_resize_eq_true_iff
  nan_iff := LayoutConfig.isNaN_chartWidth_iff
  taken := snd_resize_of_taken
  hasRoom_iff := hasRoom_snd_resize_iff
  refused := snd_resize_of_refused

/-- A view of one call. -/
def soleCallView : TraceView :=
  ofSpans [{ id := "a", parentId := none, startTime := 0, endTime := 10, label := "x", actor := "A" }] 250
    .classic { axisTicks := 1 }

/-- It takes a width that is no number, and then has no room for the chart. -/
theorem soleCallView_takes_nan :
    (soleCallView.resize (0 / 0)).1 = true ∧ ¬ (soleCallView.resize (0 / 0)).2.HasRoom := by
  have htaken : (soleCallView.resize (0 / 0)).1 = true := rfl
  have hwidth : ¬ 0 < soleCallView.config.chartWidth (0 / 0) := by decide
  exact ⟨htaken, hwidth⟩

end TraceView

end Waterfall
