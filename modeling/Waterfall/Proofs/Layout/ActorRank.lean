import Mathlib.Data.Finset.Dedup
import Waterfall.Proofs.Layout.Growth

/-!
# Actors in order of first appearance

The rank of an actor is the number of other actors that appear before it does for the first time
(`rank?`), which is said of the names as they come and of no table. The table of colours gives each actor
its rank as its place, whatever names come and however often (`Ranked`): noting one more keeps that up,
whether the actor is new or not. So colours go round the palette in the order of the ranks.

A node is coloured when its span comes up, long before the table is complete. Its colour is still the one
that the complete table has for its actor, since the rank of an actor does not depend on what comes after
it. That is also why the legend, which is drawn from the table at the end, shows the colours of the bars.
-/

namespace Waterfall

namespace ActorColors

/-! ## Ranks -/

/-- How many different actors appear before the given one does for the first time. -/
def rank? (actors : List String) (actor : String) : Option Nat :=
  if actor ∈ actors then some (actors.takeWhile (· != actor)).toFinset.card else none

theorem rank?_eq_none_iff {actors : List String} {actor : String} :
    rank? actors actor = none ↔ actor ∉ actors := by
  simp [rank?]

/-- What comes later does not change a rank. -/
theorem rank?_append_of_mem {early : List String} {actor : String} (h : actor ∈ early)
    (late : List String) : rank? (early ++ late) actor = rank? early actor := by
  have hstops : (early.takeWhile (· != actor)).length ≠ early.length := by
    intro hlength
    have hall := (List.takeWhile_prefix (· != actor) (l := early)).eq_of_length hlength
    have hself := List.takeWhile_eq_self_iff.mp hall actor h
    simp at hself
  simp only [rank?, List.mem_append, h, true_or, if_true, List.takeWhile_append, if_neg hstops]

/-- An actor that is new ranks behind all others. -/
theorem rank?_append_singleton {actors : List String} {actor : String} (h : actor ∉ actors)
    (other : String) : rank? (actors ++ [actor]) other =
      if other = actor then some actors.toFinset.card else rank? actors other := by
  by_cases hmem : other ∈ actors
  · rw [rank?_append_of_mem hmem, if_neg fun heq : other = actor => h (heq ▸ hmem)]
  · by_cases hother : other = actor
    · subst hother
      have hall : actors.takeWhile (· != other) = actors := by
        rw [List.takeWhile_eq_self_iff]
        intro x hx
        have hne : x ≠ other := fun heq => hmem (heq ▸ hx)
        simpa using hne
      simp [rank?, List.takeWhile_append, hall]
    · simp [rank?, hmem, hother]

/-! ## The table after some actors -/

/-- The table has every actor in the place of its rank, with the colour of that place, and nothing
else. -/
structure Ranked (palette actors : List String) (c : ActorColors) : Prop where
  size_eq : c.size = actors.toFinset.card
  slotOf?_eq : ∀ actor, c.slotOf? actor = rank? actors actor
  entry : ∀ slot actor color, c.entries[slot]? = some (actor, color) →
    c.slotOf? actor = some slot ∧ color = paletteColor palette slot

variable {palette actors : List String} {c : ActorColors}

theorem Ranked.assign (h : c.Ranked palette actors) (actor : String) :
    (c.assign palette actor).Ranked palette (actors ++ [actor]) := by
  cases hactor : c.slotOf? actor with
  | some slot =>
    have hmem : actor ∈ actors := by
      by_contra hnot
      rw [h.slotOf?_eq, rank?_eq_none_iff.mpr hnot] at hactor
      cases hactor
    rw [assign_of_some palette hactor]
    refine ⟨?_, ?_, h.entry⟩
    · simp [h.size_eq, hmem]
    · intro other
      by_cases hother : other ∈ actors
      · rw [rank?_append_of_mem hother, h.slotOf?_eq]
      · have hnew : other ∉ actors ++ [actor] := by
          simp only [List.mem_append, List.mem_singleton, not_or]
          exact ⟨hother, fun heq => hother (heq ▸ hmem)⟩
        rw [h.slotOf?_eq, rank?_eq_none_iff.mpr hother, rank?_eq_none_iff.mpr hnew]
  | none =>
    have hnew : actor ∉ actors := by rwa [h.slotOf?_eq, rank?_eq_none_iff] at hactor
    rw [assign_of_none palette hactor]
    refine ⟨?_, ?_, ?_⟩
    · simp [size, push, ← h.size_eq, List.toFinset_append, hnew]
    · intro other
      rw [slotOf?_push, rank?_append_singleton hnew, h.slotOf?_eq, h.size_eq]
    · intro slot other color hentry
      rw [push] at hentry
      by_cases hslot : slot < c.entries.length
      · rw [List.getElem?_append_left hslot] at hentry
        obtain ⟨hplace, hcolor⟩ := h.entry slot other color hentry
        have hne : other ≠ actor := by
          rintro rfl
          rw [hactor] at hplace
          cases hplace
        exact ⟨by rw [slotOf?_push, if_neg hne, hplace], hcolor⟩
      · rw [List.getElem?_append_right (not_lt.mp hslot), List.getElem?_singleton] at hentry
        split at hentry
        next hlast =>
          obtain ⟨rfl, rfl⟩ := Prod.mk.inj (Option.some.inj hentry)
          have hsize : c.size = slot := by
            unfold size
            omega
          exact ⟨by rw [slotOf?_push, if_pos rfl, hsize], by rw [hsize]⟩
        next => cases hentry

theorem ranked_assignAll (palette actors : List String) :
    (({} : ActorColors).assignAll palette actors).Ranked palette actors := by
  induction actors using List.reverseRecOn with
  | nil => exact ⟨rfl, fun actor => rfl, by simp [assignAll]⟩
  | append_singleton actors actor ih =>
    rw [assignAll, List.foldl_append]
    exact ih.assign actor

/-- The names in the table are those with a rank, each in the place of its rank. -/
theorem Ranked.getElem?_actors_iff (h : c.Ranked palette actors) (slot : Nat) (actor : String) :
    (c.entries.map (·.1))[slot]? = some actor ↔ rank? actors actor = some slot := by
  rw [← h.slotOf?_eq, List.getElem?_map, Option.map_eq_some_iff]
  constructor
  · rintro ⟨⟨other, color⟩, hentry, rfl⟩
    exact (h.entry slot other color hentry).1
  · intro hslot
    obtain ⟨color, hentry⟩ := exists_entry_of_slotOf? hslot
    exact ⟨_, hentry, rfl⟩

/-- No name stands in two places, because it has one rank. -/
theorem Ranked.nodup_actors (h : c.Ranked palette actors) : (c.entries.map (·.1)).Nodup := by
  rw [List.nodup_iff_getElem?_ne_getElem?]
  intro slot slot' hlt hbound heq
  obtain ⟨actor, hactor⟩ : ∃ actor, (c.entries.map (·.1))[slot']? = some actor :=
    ⟨_, List.getElem?_eq_getElem hbound⟩
  have hfirst := (h.getElem?_actors_iff slot actor).mp (heq.trans hactor)
  have hsecond := (h.getElem?_actors_iff slot' actor).mp hactor
  rw [hfirst] at hsecond
  have := Option.some.inj hsecond
  omega

theorem Ranked.colorOf?_eq (h : c.Ranked palette actors) (actor : String) :
    c.colorOf? actor = (rank? actors actor).map (paletteColor palette) := by
  cases hrank : rank? actors actor with
  | none => simp [colorOf?, h.slotOf?_eq, hrank]
  | some slot =>
    have hslot : c.slotOf? actor = some slot := by rw [h.slotOf?_eq, hrank]
    obtain ⟨color, hentry⟩ := exists_entry_of_slotOf? hslot
    rw [Option.map_some, colorOf?_eq_some_iff]
    exact ⟨slot, hslot, (h.entry slot actor color hentry).2 ▸ hentry⟩

theorem Ranked.colorOf?_of_mem (h : c.Ranked palette actors) {actor color : String}
    (hmem : (actor, color) ∈ c.entries) : c.colorOf? actor = some color := by
  obtain ⟨slot, hentry⟩ := List.mem_iff_getElem?.mp hmem
  exact colorOf?_eq_some_iff.mpr ⟨slot, (h.entry slot actor color hentry).1, hentry⟩

theorem mem_actors_of_colorOf? {actor color : String} (h : c.colorOf? actor = some color) :
    actor ∈ c.entries.map (·.1) := by
  obtain ⟨slot, -, hentry⟩ := colorOf?_eq_some_iff.mp h
  exact List.mem_map_of_mem (List.mem_of_getElem? hentry)

/-! ## The colours of nodes -/

/-- The colour of an actor among others. -/
def colorAmong (palette actors : List String) (actor : String) : String :=
  ((rank? actors actor).map (paletteColor palette)).getD ""

theorem colorOf?_assignAll_of_some {color actor : String} (h : c.colorOf? actor = some color)
    (more : List String) : (c.assignAll palette more).colorOf? actor = some color := by
  induction more generalizing c with
  | nil => exact h
  | cons other rest ih => exact ih (colorOf?_assign_of_some h)

end ActorColors

namespace Node

open ActorColors

variable {palette : List String}

/-- The colour that a node was given when its span came up is the one in the table at the end. -/
theorem colorOf?_ofSpansFrom (origin : Int) (index : Nat) (colors : ActorColors) (spans : List Span) :
    ∀ n ∈ (ofSpansFrom palette origin index colors spans).1,
      (ofSpansFrom palette origin index colors spans).2.colorOf? n.actor = some n.color := by
  induction spans generalizing index colors with
  | nil => simp [ofSpansFrom]
  | cons s rest ih =>
    intro n hn
    rcases List.mem_cons.mp hn with rfl | hn
    · obtain ⟨color, hcolor⟩ := Option.isSome_iff_exists.mp (colorOf?_assign_isSome palette colors s.actor)
      have hlater : ((colors.assign palette s.actor).assignAll palette
          (rest.map (·.actor))).colorOf? s.actor = some color :=
        colorOf?_assignAll_of_some hcolor _
      rw [← ofSpansFrom_snd palette origin (index + 1)] at hlater
      simpa [ofSpansFrom, ofSpan, hcolor] using hlater
    · exact ih (index + 1) (colors.assign palette s.actor) n hn

theorem ranked_ofSpans (spans : List Span) (palette : List String) :
    (ofSpans spans palette).2.Ranked palette (spans.map (·.actor)) := by
  rw [ofSpans, ofSpansFrom_snd]
  exact ranked_assignAll palette _

/-- Each node has the colour of its actor's rank. -/
theorem map_color_ofSpans (spans : List Span) (palette : List String) :
    (ofSpans spans palette).1.map (·.color) =
      spans.map fun s => colorAmong palette (spans.map (·.actor)) s.actor := by
  apply map_eq_map_of_getElem? (length_ofSpans spans palette)
  intro row s hs
  obtain ⟨color, hn⟩ := getElem?_ofSpans palette hs
  refine ⟨_, hn, ?_⟩
  have hcolor := colorOf?_ofSpansFrom _ 0 {} spans _ (List.mem_of_getElem? hn)
  have hrank := (ranked_ofSpans spans palette).colorOf?_eq s.actor
  simp only [colorAmong, ← hrank]
  exact (congrArg (·.getD "") hcolor).symm

/-- Later spans do not change the colours of earlier ones. -/
theorem map_color_ofSpans_isPrefix (early late : List Span) (palette : List String) :
    (ofSpans early palette).1.map (·.color) <+: (ofSpans (early ++ late) palette).1.map (·.color) := by
  have hsame : (early.map fun s => colorAmong palette (early.map (·.actor)) s.actor) =
      early.map fun s => colorAmong palette ((early ++ late).map (·.actor)) s.actor := by
    apply List.map_congr_left
    intro s hs
    simp only [colorAmong, List.map_append, rank?_append_of_mem (List.mem_map_of_mem hs)]
  rw [map_color_ofSpans, map_color_ofSpans, hsame]
  exact (List.prefix_append early late).map _

end Node

/-! ## Main statement -/

open ActorColors (rank?) in
/-- Actors and nodes of some spans have their colours by rank, and so have the rows and the chips of every
layout of them. -/
structure ColoredByRank (spans : List Span) (palette : List String) (nodes : List Node)
    (colors : ActorColors) : Prop where
  /-- Each actor stands once, in the place of its rank, and no other name stands there. -/
  listed : ∀ slot actor,
    (colors.entries.map (·.1))[slot]? = some actor ↔ rank? (spans.map (·.actor)) actor = some slot
  once : (colors.entries.map (·.1)).Nodup
  slot_eq : ∀ actor, colors.slotOf? actor = rank? (spans.map (·.actor)) actor
  unseen : ∀ actor, actor ∉ spans.map (·.actor) → colors.slotOf? actor = none ∧ colors.colorOf? actor = none
  /-- The palette starts again at its end. -/
  cycled : palette ≠ [] → ∀ actor rank, rank? (spans.map (·.actor)) actor = some rank →
    ∃ color, palette[rank % palette.length]? = some color ∧ colors.colorOf? actor = some color
  colorless : palette = [] → ∀ actor ∈ spans.map (·.actor), colors.colorOf? actor = some ""
  /-- There is a node for each span, with the colour of its actor. -/
  actors_eq : nodes.map (·.actor) = spans.map (·.actor)
  node_eq : ∀ n ∈ nodes, colors.colorOf? n.actor = some n.color
  /-- What the first spans were given, they keep. -/
  kept : ∀ early late, spans = early ++ late →
    (Node.ofSpans early palette).1.map (·.color) <+: nodes.map (·.color) ∧
    (Node.ofSpans early palette).2.entries <+: colors.entries
  legend : ∀ (theme : Theme) (config : LayoutConfig) (containerWidth : Float32) (layout : TraceLayout),
    theme.palette = palette → TraceLayout.compute spans theme config containerWidth = .ok layout →
    layout.legend.map (fun chip => (chip.actor, chip.color)) = colors.entries ∧
    ∀ r ∈ layout.rows, (layout.legend.map (·.actor)).count r.node.actor = 1 ∧
      ∀ chip ∈ layout.legend, chip.actor = r.node.actor → chip.color = r.color

open ActorColors in
/-- **Colours go by rank**: actors are listed once each in order of first appearance, the palette is gone
round in that order, and nodes, rows and chips all show the colour of their actor. -/
theorem coloredByRank_ofSpans (spans : List Span) (palette : List String) :
    ColoredByRank spans palette (Node.ofSpans spans palette).1 (Node.ofSpans spans palette).2 := by
  have hranked := Node.ranked_ofSpans spans palette
  have hnodes : ∀ n ∈ (Node.ofSpans spans palette).1,
      (Node.ofSpans spans palette).2.colorOf? n.actor = some n.color :=
    Node.colorOf?_ofSpansFrom _ 0 {} spans
  have hactors : (Node.ofSpans spans palette).1.map (·.actor) = spans.map (·.actor) :=
    Node.map_ofSpans (fun _ _ _ _ => rfl) spans palette
  refine ⟨hranked.getElem?_actors_iff, hranked.nodup_actors, hranked.slotOf?_eq, ?unseen, ?cycled,
    ?colorless, hactors, hnodes, ?kept, ?legend⟩
  case unseen =>
    intro actor hnot
    rw [hranked.colorOf?_eq, hranked.slotOf?_eq, rank?_eq_none_iff.mpr hnot]
    exact ⟨rfl, rfl⟩
  case cycled =>
    intro hne actor rank hrank
    refine ⟨paletteColor palette rank, getElem?_mod_length hne rank, ?_⟩
    rw [hranked.colorOf?_eq, hrank, Option.map_some]
  case colorless =>
    rintro rfl actor hactor
    obtain ⟨rank, hrank⟩ := Option.ne_none_iff_exists'.mp (mt rank?_eq_none_iff.mp (not_not.mpr hactor))
    rw [hranked.colorOf?_eq, hrank, Option.map_some, paletteColor_nil]
  case kept =>
    rintro early late rfl
    exact ⟨Node.map_color_ofSpans_isPrefix early late palette,
      Node.entries_isPrefix_ofSpans palette early late⟩
  case legend =>
    rintro theme config containerWidth layout rfl hlayout
    obtain ⟨-, rfl⟩ := TraceLayout.compute_eq_ok_iff.mp hlayout
    have hentries := Legend.map_entry_chips (Node.ofSpans spans theme.palette).2 containerWidth theme config
    have hlegend : (TraceLayout.ofValid spans theme config containerWidth).legend.map (·.actor) =
        (Node.ofSpans spans theme.palette).2.entries.map (·.1) := by
      rw [← hentries, List.map_map]
      rfl
    refine ⟨hentries, ?_⟩
    intro r hr
    obtain ⟨i, hi, rfl⟩ := List.mem_mapIdx.mp hr
    have hrow := hnodes _ (List.getElem_mem hi)
    refine ⟨?_, ?_⟩
    · rw [hlegend]
      exact List.count_eq_one_of_mem hranked.nodup_actors (mem_actors_of_colorOf? hrow)
    · intro chip hchip hactor
      have hmem : (chip.actor, chip.color) ∈ (Node.ofSpans spans theme.palette).2.entries :=
        hentries ▸ List.mem_map_of_mem (f := fun c : Chip => (c.actor, c.color)) hchip
      have hcolor := hranked.colorOf?_of_mem hmem
      rw [hactor] at hcolor
      exact Option.some.inj (hcolor.symm.trans hrow)

/-- The third actor is given the first colour again. -/
example : (({} : ActorColors).assignAll ["red", "blue"] ["x", "y", "x", "z"]).entries =
    [("x", "red"), ("y", "blue"), ("z", "red")] := by decide

end Waterfall
