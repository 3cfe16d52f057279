import Mathlib.Logic.Relation
import Waterfall.Proofs.Json.Recognition
import Waterfall.Proofs.Trace.Parts

/-!
# Changes that a trace does not show

A document can be changed in any of its places. `Within change` makes one change in one place, and a chain
of such changes, made and unmade, leads from one document to another. If each change alone is harmless in
its place, the trace is the same for every text of either document (`parseTrace_eq_of_changes`). No text is
left out by speaking of documents: those that are accepted are all texts of one
(`parseTrace_eq_ok_iff_exists_isTextOf`).
-/

namespace Waterfall

/-- One change: of the value itself, or in the place of one of its items or members. -/
inductive Within (change : Part → Json → Json → Prop) : Part → Json → Json → Prop
  | here {p : Part} {v w : Json} : change p v w → Within change p v w
  | item {p : Part} (before after : List Json) {v w : Json} :
      Within change (p.item before.length) v w →
      Within change p (.list (before ++ v :: after)) (.list (before ++ w :: after))
  | member {p : Part} {name : String} (before after : List (String × Json)) {v w : Json} :
      Within change (p.member name) v w →
      Within change p (.object (before ++ (name, v) :: after)) (.object (before ++ (name, w) :: after))

/-- Changed values are read alike in the place of the change. -/
def Harmless (change : Part → Json → Json → Prop) : Prop :=
  ∀ p v w, change p v w → p.Alike v.arranged w.arranged

/-- Lists that differ in one item, which is alike in its place. -/
theorem Part.sameItems_of_one {p : Part} (before after : List Json) {v w : Json}
    (h : (p.item before.length).Alike v w) : p.SameItems (before ++ v :: after) (before ++ w :: after) where
  length_eq := by simp
  alike i x y hx hy := by
    rcases Nat.lt_trichotomy i before.length with hi | rfl | hi
    · rw [List.getElem?_append_left hi] at hx hy
      obtain rfl : x = y := Option.some.inj (hx.symm.trans hy)
      exact alike_refl _ x
    · obtain rfl : v = x := by simpa using hx
      obtain rfl : w = y := by simpa using hy
      exact h
    · have hlater : ∀ u : Json, (before ++ u :: after)[i]? = after[i - before.length - 1]? := by
        intro u
        rw [List.getElem?_append_right (by omega), List.getElem?_cons, if_neg (by omega)]
      rw [hlater] at hx hy
      obtain rfl : x = y := Option.some.inj (hx.symm.trans hy)
      exact alike_refl _ x

/-- Objects that differ in one member, which is alike in its place. -/
theorem Part.sameNames_of_one {p : Part} {name : String} (before after : List (String × Json)) {v w : Json}
    (h : (p.member name).Alike v.arranged w.arranged) :
    SameNames (fun name v w => (p.member name).Alike v.arranged w.arranged) (before ++ (name, v) :: after)
      (before ++ (name, w) :: after) := by
  have hsame : ∀ ms : List (String × Json),
      SameNames (fun name v w => (p.member name).Alike v.arranged w.arranged) ms ms := by
    intro ms
    exact List.forall₂_same.mpr fun m _ => ⟨rfl, alike_refl _ _⟩
  exact List.rel_append (hsame before) (.cons ⟨rfl, h⟩ (hsame after))

variable {change : Part → Json → Json → Prop}

/-- A harmless change makes no difference in the places around it. -/
theorem Within.alike (hchange : Harmless change) {p : Part} {v w : Json} (h : Within change p v w) :
    p.Alike v.arranged w.arranged := by
  induction h with
  | here h => exact hchange _ _ _ h
  | item before after _ ih =>
    simp only [Json.arranged, Json.arrangedItems_eq_map, List.map_append, List.map_cons]
    refine Part.alike_list (Part.sameItems_of_one _ _ ?_)
    rw [List.length_map]
    exact ih
  | member before after _ ih =>
    refine Part.alike_object (Json.sameNames_arrangedMembers ?_ .nil)
    exact Part.sameNames_of_one before after ih

/-- Harmless changes one after the other, made or unmade. -/
theorem spansOfDocument_eq_of_changes (hchange : Harmless change) {d d' : Json}
    (h : Relation.EqvGen (Within change .document) d d') :
    spansOfDocument d.arranged = spansOfDocument d'.arranged := by
  induction h with
  | rel _ _ h => exact h.alike hchange
  | refl _ => rfl
  | symm _ _ _ ih => exact ih.symm
  | trans _ _ _ _ _ ih ih' => exact ih.trans ih'

/-! ## Nesting -/

theorem nestingItems_append (before vs : List Json) :
    Json.nestingItems (before ++ vs) = max (Json.nestingItems before) (Json.nestingItems vs) := by
  induction before with
  | nil => exact (Nat.zero_max _).symm
  | cons v before ih => rw [List.cons_append, Json.nestingItems, Json.nestingItems, ih, Nat.max_assoc]

theorem nestingMembers_append (before ms : List (String × Json)) :
    Json.nestingMembers (before ++ ms) = max (Json.nestingMembers before) (Json.nestingMembers ms) := by
  induction before with
  | nil => exact (Nat.zero_max _).symm
  | cons m before ih => rw [List.cons_append, Json.nestingMembers, Json.nestingMembers, ih, Nat.max_assoc]

/-- Changes that keep the nesting of what they change keep that of the document. -/
theorem nesting_eq_of_changes (hchange : ∀ p v w, change p v w → v.nesting = w.nesting) {d d' : Json}
    (h : Relation.EqvGen (Within change .document) d d') : d.nesting = d'.nesting := by
  have hwithin : ∀ {p v w}, Within change p v w → v.nesting = w.nesting := by
    intro p v w h
    induction h with
    | here h => exact hchange _ _ _ h
    | item _ _ _ ih =>
      simp only [Json.nesting, nestingItems_append, Json.nestingItems, ih]
    | member _ _ _ ih =>
      simp only [Json.nesting, nestingMembers_append, Json.nestingMembers, ih]
  induction h with
  | rel _ _ h => exact hwithin h
  | refl _ => rfl
  | symm _ _ _ ih => exact ih.symm
  | trans _ _ _ _ _ ih ih' => exact ih.trans ih'

/-! ## Texts -/

theorem parseTrace_of_isTextOf {input : String} {d : Json} (h : Json.IsTextOf input.toList d)
    (hdepth : d.nesting ≤ Json.mostNesting) : parseTrace input = spansOfDocument d.arranged := by
  simp only [parseTrace, Json.ofText_of_isTextOf h hdepth]

/-- Every text that is accepted is a text of a document, and its spans are those of the document. -/
theorem parseTrace_eq_ok_iff_exists_isTextOf {input : String} {spans : List Span} :
    parseTrace input = .ok spans ↔ ∃ d, Json.IsTextOf input.toList d ∧ d.nesting ≤ Json.mostNesting ∧
      spansOfDocument d.arranged = .ok spans := by
  constructor
  · intro h
    simp only [parseTrace] at h
    split at h
    · cases h
    · next document hread =>
      obtain ⟨d, htext, hdepth, rfl⟩ := Json.ofText_eq_ok_iff.mp hread
      exact ⟨d, htext, hdepth, h⟩
  · rintro ⟨d, htext, hdepth, hspans⟩
    rw [parseTrace_of_isTextOf htext hdepth]
    exact hspans

theorem parseTrace_of_isTextOf_deep {input : String} {d : Json} (h : Json.IsTextOf input.toList d)
    (hdepth : Json.mostNesting < d.nesting) :
    ∃ place, parseTrace input = .error (.badText .tooDeep place) := by
  obtain ⟨left, hleft⟩ := Json.ofText_of_isTextOf_deep h hdepth
  refine ⟨Json.Failure.position input.toList ⟨.tooDeep, left⟩, ?_⟩
  simp only [parseTrace, hleft, TraceError.ofFailure]

theorem parseTrace_eq_of_changes (hchange : Harmless change) {d d' : Json}
    (h : Relation.EqvGen (Within change .document) d d') {input input' : String}
    (htext : Json.IsTextOf input.toList d) (htext' : Json.IsTextOf input'.toList d')
    (hdepth : d.nesting ≤ Json.mostNesting) (hdepth' : d'.nesting ≤ Json.mostNesting) :
    parseTrace input = parseTrace input' := by
  rw [parseTrace_of_isTextOf htext hdepth, parseTrace_of_isTextOf htext' hdepth']
  exact spansOfDocument_eq_of_changes hchange h

end Waterfall
