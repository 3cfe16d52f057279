/-!
# Actor colours

Actors get their colours in order of first appearance, from a palette that starts again at its end.
An empty palette gives every actor the empty colour.

The places of the actors are kept beside the list of their colours. The two are in step by
construction: an actor that has a place has a colour there.
-/

namespace Waterfall

/-- The actors seen so far, in order of first appearance, each with its colour. -/
structure ActorColors where
  entries : List (String × String) := []
  /-- The place of each actor among the entries. -/
  slots : List (String × Nat) := []
  inStep : ∀ actor, slots.lookup actor = entries.findIdx? (·.1 == actor) := by simp

namespace ActorColors

/-- The colour of the actor in the given place. -/
def paletteColor (palette : List String) (slot : Nat) : String :=
  if h : palette = [] then ""
  else palette.get ⟨slot % palette.length, Nat.mod_lt _ (List.length_pos_iff.mpr h)⟩

/-- The place of an actor in the order of first appearance. -/
def slotOf? (c : ActorColors) (actor : String) : Option Nat := c.slots.lookup actor

def colorOf? (c : ActorColors) (actor : String) : Option String :=
  (c.slotOf? actor).bind fun slot => c.entries[slot]?.map (·.2)

def size (c : ActorColors) : Nat := c.entries.length

def isEmpty (c : ActorColors) : Bool := c.entries.isEmpty

theorem slotOf?_eq (c : ActorColors) (actor : String) :
    c.slotOf? actor = c.entries.findIdx? (·.1 == actor) := c.inStep actor

/-- Puts an actor behind those seen so far. -/
def push (c : ActorColors) (actor color : String) (h : c.slotOf? actor = none) : ActorColors where
  entries := c.entries ++ [(actor, color)]
  slots := (actor, c.size) :: c.slots
  inStep := by
    intro other
    rw [List.findIdx?_append, ← c.slotOf?_eq other, List.lookup_cons]
    by_cases hother : other = actor
    · subst hother
      simp [h, size]
    · have hne : (actor == other) = false := by simpa using Ne.symm hother
      have hne' : (other == actor) = false := by simpa using hother
      simp [hne, hne', slotOf?]

/-- Takes note of an actor; one that was seen before keeps its colour. -/
def assign (palette : List String) (c : ActorColors) (actor : String) : ActorColors :=
  match h : c.slotOf? actor with
  | some _ => c
  | none => c.push actor (paletteColor palette c.size) h

/-- The colours after all these actors have appeared. -/
def assignAll (palette : List String) (c : ActorColors) (actors : List String) : ActorColors :=
  actors.foldl (assign palette) c

theorem paletteColor_nil (slot : Nat) : paletteColor [] slot = "" := rfl

theorem getElem?_mod_length {palette : List String} (h : palette ≠ []) (slot : Nat) :
    palette[slot % palette.length]? = some (paletteColor palette slot) := by
  rw [paletteColor, dif_neg h, List.get_eq_getElem]
  exact List.getElem?_eq_getElem _

/-- An actor that has a place stands there. -/
theorem exists_entry_of_slotOf? {c : ActorColors} {actor : String} {slot : Nat}
    (h : c.slotOf? actor = some slot) : ∃ color, c.entries[slot]? = some (actor, color) := by
  rw [slotOf?_eq, List.findIdx?_eq_some_iff_getElem] at h
  obtain ⟨hlt, hactor, -⟩ := h
  exact ⟨c.entries[slot].2, by rw [List.getElem?_eq_getElem hlt, ← beq_iff_eq.mp hactor]⟩

/-- An actor has a colour as soon as it has a place. -/
theorem colorOf?_eq_some_iff {c : ActorColors} {actor color : String} :
    c.colorOf? actor = some color ↔
      ∃ slot, c.slotOf? actor = some slot ∧ c.entries[slot]? = some (actor, color) := by
  simp only [colorOf?, Option.bind_eq_some_iff]
  refine exists_congr fun slot => and_congr_right fun hslot => ?_
  obtain ⟨found, hentry⟩ := exists_entry_of_slotOf? hslot
  simp [hentry]

theorem slotOf?_push {c : ActorColors} {actor color : String} (h : c.slotOf? actor = none)
    (other : String) :
    (c.push actor color h).slotOf? other = if other = actor then some c.size else c.slotOf? other := by
  rw [slotOf?, push, List.lookup_cons]
  by_cases hother : other = actor
  · simp [hother]
  · have hne : (other == actor) = false := by simpa using hother
    simp [hne, hother, slotOf?]

theorem assign_of_some {c : ActorColors} {actor : String} {slot : Nat} (palette : List String)
    (h : c.slotOf? actor = some slot) : c.assign palette actor = c := by
  unfold assign
  split <;> simp_all

theorem assign_of_none {c : ActorColors} {actor : String} (palette : List String)
    (h : c.slotOf? actor = none) :
    c.assign palette actor = c.push actor (paletteColor palette c.size) h := by
  unfold assign
  split <;> simp_all

/-- An actor that has been noted has a colour. -/
theorem colorOf?_assign_isSome (palette : List String) (c : ActorColors) (actor : String) :
    ((c.assign palette actor).colorOf? actor).isSome = true := by
  have hslot : ∃ slot, (c.assign palette actor).slotOf? actor = some slot := by
    cases hactor : c.slotOf? actor with
    | some slot => exact ⟨slot, by rw [assign_of_some palette hactor, hactor]⟩
    | none => exact ⟨c.size, by rw [assign_of_none palette hactor, slotOf?_push, if_pos rfl]⟩
  obtain ⟨slot, hslot⟩ := hslot
  obtain ⟨color, hentry⟩ := exists_entry_of_slotOf? hslot
  rw [colorOf?_eq_some_iff.mpr ⟨slot, hslot, hentry⟩]
  rfl

/-- Noting an actor takes nothing away. -/
theorem colorOf?_assign_of_some {palette : List String} {c : ActorColors} {actor other color : String}
    (h : c.colorOf? other = some color) : (c.assign palette actor).colorOf? other = some color := by
  obtain ⟨slot, hslot, hentry⟩ := colorOf?_eq_some_iff.mp h
  cases hactor : c.slotOf? actor with
  | some _ => rwa [assign_of_some palette hactor]
  | none =>
    have hne : other ≠ actor := by
      rintro rfl
      simp [hslot] at hactor
    rw [assign_of_none palette hactor, colorOf?_eq_some_iff]
    refine ⟨slot, by rwa [slotOf?_push, if_neg hne], ?_⟩
    rw [push, List.getElem?_append_left (List.getElem?_eq_some_iff.mp hentry).1, hentry]

end ActorColors

end Waterfall
