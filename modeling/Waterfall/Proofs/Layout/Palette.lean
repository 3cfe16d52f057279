import Waterfall.Layout.Basic

/-!
# The colours of a layout

Colours are handed out from the palette, and a palette without colours hands out the empty one. Rows and
chips of a layout show colours that were handed out.
-/

namespace Waterfall

namespace ActorColors

/-- The colour can be handed out from the palette. -/
def FromPalette (palette : List String) (color : String) : Prop := color ∈ palette ∨ color = ""

theorem fromPalette_paletteColor (palette : List String) (slot : Nat) :
    FromPalette palette (paletteColor palette slot) := by
  unfold paletteColor
  split
  · exact .inr rfl
  · exact .inl (List.get_mem ..)

/-- All colours noted so far are from the palette. -/
def AllFrom (palette : List String) (c : ActorColors) : Prop :=
  ∀ e ∈ c.entries, FromPalette palette e.2

theorem AllFrom.assign {palette : List String} {c : ActorColors} (h : c.AllFrom palette)
    (actor : String) : (c.assign palette actor).AllFrom palette := by
  cases hactor : c.slotOf? actor with
  | some _ => rwa [assign_of_some palette hactor]
  | none =>
    rw [assign_of_none palette hactor]
    intro e he
    rcases List.mem_append.mp he with he | he
    · exact h e he
    · obtain rfl := List.mem_singleton.mp he
      exact fromPalette_paletteColor palette c.size

theorem AllFrom.colorOf? {palette : List String} {c : ActorColors} (h : c.AllFrom palette)
    (actor : String) : FromPalette palette ((c.colorOf? actor).getD "") := by
  cases hcolor : c.colorOf? actor with
  | none => exact .inr rfl
  | some color =>
    obtain ⟨slot, -, hentry⟩ := colorOf?_eq_some_iff.mp hcolor
    exact h (actor, color) (List.mem_of_getElem? hentry)

end ActorColors

open ActorColors (FromPalette)

/-- Nodes have colours from the palette, and so have the actors noted on the way. -/
theorem Node.fromPalette_ofSpansFrom {palette : List String} (origin : Int) (index : Nat)
    {colors : ActorColors} (h : colors.AllFrom palette) (spans : List Span) :
    (∀ n ∈ (ofSpansFrom palette origin index colors spans).1, FromPalette palette n.color) ∧
      (ofSpansFrom palette origin index colors spans).2.AllFrom palette := by
  induction spans generalizing index colors with
  | nil => exact ⟨by simp [ofSpansFrom], h⟩
  | cons s rest ih =>
    have hassign := h.assign s.actor
    obtain ⟨hnodes, hcolors⟩ := ih (index + 1) hassign
    refine ⟨?_, hcolors⟩
    intro n hn
    rcases List.mem_cons.mp hn with rfl | hn
    · exact hassign.colorOf? s.actor
    · exact hnodes n hn

theorem Node.fromPalette_ofSpans (spans : List Span) (palette : List String) :
    (∀ n ∈ (ofSpans spans palette).1, FromPalette palette n.color) ∧
      (ofSpans spans palette).2.AllFrom palette :=
  fromPalette_ofSpansFrom (earliestStart spans) 0 (by simp [ActorColors.AllFrom]) spans

namespace TraceLayout

variable (spans : List Span) (theme : Theme) (config : LayoutConfig) (containerWidth : Float32)

theorem fromPalette_rows :
    ∀ r ∈ (ofValid spans theme config containerWidth).rows, FromPalette theme.palette r.color := by
  intro r hr
  obtain ⟨i, hi, rfl⟩ := List.mem_mapIdx.mp hr
  exact (Node.fromPalette_ofSpans spans theme.palette).1 _ (List.getElem_mem hi)

theorem fromPalette_legend :
    ∀ c ∈ (ofValid spans theme config containerWidth).legend, FromPalette theme.palette c.color := by
  intro c hc
  have hentry := List.mem_map_of_mem (f := fun c : Chip => (c.actor, c.color)) hc
  have hentries := Legend.map_entry_chips (Node.ofSpans spans theme.palette).2 containerWidth theme config
  exact (Node.fromPalette_ofSpans spans theme.palette).2 (c.actor, c.color) (hentries ▸ hentry)

end TraceLayout

end Waterfall
