import Mathlib.Data.List.Nodup
import Waterfall.Proofs.Decode.Records

/-!
# The forms of a record

A record comes as an object, where a field may have a second name, or as a list of its values in order.
Either way each field is read on its own (`Fields.From`): from what is found under its names or at its
place, and from nothing else.

An object with second names is read like one without, once each second name is put down to the first one
(`Fields.canonical`).
-/

namespace Waterfall

variable {R : Type → Type} {N ε K : Type} {ts : List Type}

/-- The names that a field goes by. -/
def Field.names {α : Type} (f : Field R α) : List String :=
  f.name :: f.otherName.toList

theorem Field.answersTo_iff {α : Type} {f : Field R α} {key : String} :
    f.answersTo key = true ↔ key ∈ f.names := by
  cases hother : f.otherName <;> simp [Field.answersTo, Field.names, hother]

/-- The value of the field is that of the node, or its default without one. -/
def Field.Of {α : Type} (f : Field (Decoder N ε) α) (given : Option N) (v : α) : Prop :=
  match given with
  | some node => f.read node = .ok v
  | none => f.presence.unnamed = some v

namespace Fields

/-- Each field has the value of what is found under its names or at its place. -/
def From (find : List String → Nat → Option N) :
    {ts : List Type} → Fields (Decoder N ε) ts → Nat → Values ts → Prop
  | _, .nil, _, _ => True
  | _, .cons f rest, place, (v, vs) => f.Of (find f.names place) v ∧ rest.From find (place + 1) vs

/-! ## Second names -/

/-- All names of all fields. -/
def allNames : {ts : List Type} → Fields R ts → List String
  | _, .nil => []
  | _, .cons f rest => f.names ++ rest.allNames

/-- The fields by their first names alone. -/
def plain : {ts : List Type} → Fields R ts → Fields R ts
  | _, .nil => .nil
  | _, .cons f rest => .cons { f with otherName := none } rest.plain

/-- The first name of the field that a name asks for; any other name is left as it is. -/
def canonical : {ts : List Type} → Fields R ts → String → String
  | _, .nil, key => key
  | _, .cons f rest, key => if f.answersTo key then f.name else rest.canonical key

/-- The names that come to the first name of a field are the names of that field. -/
def Tells (canon : String → String) : {ts : List Type} → Fields R ts → Prop
  | _, .nil => True
  | _, .cons f rest => (∀ key, canon key = f.name ↔ key ∈ f.names) ∧ rest.Tells canon

theorem names_plain (fs : Fields R ts) : fs.plain.names = fs.names := by
  induction fs with
  | nil => rfl
  | cons f rest ih => simp only [plain, names, ih]

theorem names_subset_allNames (fs : Fields R ts) : fs.names ⊆ fs.allNames := by
  induction fs with
  | nil => simp [names]
  | cons f rest ih =>
    exact List.cons_subset.mpr ⟨by simp [allNames, Field.names],
      List.Subset.trans ih (List.subset_append_right _ _)⟩

theorem distinct_plain {fs : Fields R ts} (h : fs.allNames.Nodup) : fs.plain.Distinct := by
  induction fs with
  | nil => trivial
  | cons f rest ih =>
    obtain ⟨-, hrest, hdisjoint⟩ := List.nodup_append'.mp h
    have hname : f.name ∉ rest.names := fun hmem =>
      hdisjoint List.mem_cons_self (rest.names_subset_allNames hmem)
    exact ⟨rfl, by rwa [names_plain], ih hrest⟩

theorem canonical_eq_or_mem (fs : Fields R ts) (key : String) :
    fs.canonical key = key ∨ fs.canonical key ∈ fs.names := by
  induction fs with
  | nil => exact .inl rfl
  | cons f rest ih =>
    simp only [canonical, names]
    split
    · exact .inr List.mem_cons_self
    · exact ih.imp id fun h => List.mem_cons_of_mem _ h

/-- A name that a field does not go by is not put down to it. -/
theorem canonical_ne_name {t : Type} {f : Field R t} {rest : Fields R ts}
    (h : (Fields.cons f rest).allNames.Nodup) {key : String} (hkey : key ∉ f.names) :
    rest.canonical key ≠ f.name := by
  obtain ⟨-, -, hdisjoint⟩ := List.nodup_append'.mp h
  rcases rest.canonical_eq_or_mem key with hsame | hmem
  · rw [hsame]
    rintro rfl
    exact hkey List.mem_cons_self
  · exact fun heq => hdisjoint List.mem_cons_self (heq ▸ rest.names_subset_allNames hmem)

/-- Fields further on are told apart as well as before when a field with other names stands in front. -/
theorem tells_cons {t : Type} {f : Field R t} {canon : String → String} {fs : Fields R ts}
    (hdisjoint : f.names.Disjoint fs.allNames) (h : fs.Tells canon) :
    fs.Tells fun key => if f.answersTo key then f.name else canon key := by
  induction fs with
  | nil => trivial
  | cons g rest ih =>
    obtain ⟨hg, hrest⟩ := h
    obtain ⟨hfg, hfrest⟩ := List.disjoint_append_right.mp hdisjoint
    refine ⟨fun key => ?_, ih hfrest hrest⟩
    dsimp only
    by_cases hkey : key ∈ f.names
    · rw [if_pos (Field.answersTo_iff.mpr hkey)]
      refine iff_of_false (fun heq => ?_) (hfg hkey)
      exact hfg (heq ▸ List.mem_cons_self) List.mem_cons_self
    · rw [if_neg fun hanswers => hkey (Field.answersTo_iff.mp hanswers), hg]

theorem tells_canonical {fs : Fields R ts} (h : fs.allNames.Nodup) : fs.Tells fs.canonical := by
  induction fs with
  | nil => trivial
  | cons f rest ih =>
    obtain ⟨-, hrest, hdisjoint⟩ := List.nodup_append'.mp h
    refine ⟨fun key => ?_, tells_cons hdisjoint (ih hrest)⟩
    by_cases hkey : key ∈ f.names
    · simp only [canonical, if_pos (Field.answersTo_iff.mpr hkey), hkey]
    · rw [canonical, if_neg fun hanswers => hkey (Field.answersTo_iff.mp hanswers)]
      exact iff_of_false (canonical_ne_name h hkey) hkey

theorem lookup_plain [Functor R] {fs : Fields R ts} (h : fs.allNames.Nodup) (key : String)
    (slots : Slots ts) : fs.lookup key slots = fs.plain.lookup (fs.canonical key) slots := by
  induction fs with
  | nil => rfl
  | cons f rest ih =>
    obtain ⟨slot, slots⟩ := slots
    have hplain : ∀ name, ({ f with otherName := none } : Field R _).answersTo name = (name == f.name) :=
      fun name => by simp [Field.answersTo]
    by_cases hkey : key ∈ f.names
    · have hanswers : f.answersTo key = true := Field.answersTo_iff.mpr hkey
      simp only [lookup, plain, canonical, hanswers, if_true, hplain, beq_self_eq_true]
    · have hanswers : f.answersTo key = false :=
        Bool.eq_false_iff.mpr fun hanswers => hkey (Field.answersTo_iff.mp hanswers)
      have hne : (rest.canonical key == f.name) = false := by simpa using canonical_ne_name h hkey
      simp only [lookup, plain, canonical, hanswers, Bool.false_eq_true, if_false, hplain, hne,
        ih (List.nodup_append'.mp h).2.1]

/-! ## Objects -/

section Objects

variable {fs : Fields (Decoder N ε) ts}

theorem empty_plain (fs : Fields R ts) : fs.plain.empty = fs.empty := by
  induction fs with
  | nil => rfl
  | cons f rest ih => simp only [plain, empty, ih]

theorem complete_plain (fs : Fields R ts) (slots : Slots ts) :
    fs.plain.complete slots = fs.complete slots := by
  induction fs with
  | nil => rfl
  | cons f rest ih => simp only [plain, complete, ih]

theorem readMembers_plain (h : fs.allNames.Nodup) (lift : Mismatch → ε) (name : K → Except ε String)
    (ignore : Decoder N ε Unit) (slots : Slots ts) (members : List (K × N)) :
    fs.readMembers lift name ignore slots members =
      fs.plain.readMembers lift (fun k => (name k).map fs.canonical) ignore slots members := by
  induction members generalizing slots with
  | nil => rfl
  | cons m rest ih =>
    obtain ⟨k, node⟩ := m
    simp only [readMembers]
    cases name k with
    | error e => rfl
    | ok key => simp only [Except.map, bind, Except.bind, lookup_plain h key slots, ih]

theorem ofMembers_plain (h : fs.allNames.Nodup) (lift : Mismatch → ε) (name : K → Except ε String)
    (ignore : Decoder N ε Unit) (members : List (K × N)) :
    fs.ofMembers lift name ignore members =
      fs.plain.ofMembers lift (fun k => (name k).map fs.canonical) ignore members := by
  simp only [ofMembers, readMembers_plain h, complete_plain, empty_plain]

/-- The first member with one of the names. -/
def memberOf? (name : K → Except ε String) (members : List (K × N)) (names : List String) :
    Option N :=
  (members.find? fun m => (name m.1).toOption.any (· ∈ names)).map Prod.snd

theorem lookup_eq_memberOf? {name : K → Except ε String} {canon : String → String}
    {members : List (K × N)} {named : List (String × N)} {target : String} {names : List String}
    (htells : ∀ key, canon key = target ↔ key ∈ names)
    (h : Named (fun k => (name k).map canon) members named) :
    named.lookup target = memberOf? name members names := by
  induction h with
  | nil => rfl
  | @cons m n members named hmn _ ih =>
    obtain ⟨k, node⟩ := m
    obtain ⟨first, node'⟩ := n
    obtain ⟨hname, rfl⟩ := hmn
    obtain ⟨key, hkey, rfl⟩ := map_eq_ok_iff.mp hname
    by_cases hmem : key ∈ names
    · have htarget : (target == canon key) = true := by simpa using ((htells key).mpr hmem).symm
      simp [memberOf?, List.lookup_cons, hkey, hmem, htarget, Except.toOption]
    · have htarget : (target == canon key) = false := by
        simpa using fun heq : target = canon key => hmem ((htells key).mp heq.symm)
      simpa [memberOf?, List.lookup_cons, hkey, hmem, htarget, Except.toOption] using ih

theorem from_of_byName {name : K → Except ε String} {canon : String → String}
    {members : List (K × N)} {named : List (String × N)} {place : Nat} {vs : Values ts}
    (hnamed : Named (fun k => (name k).map canon) members named) (htells : fs.Tells canon)
    (h : fs.plain.ByName named vs) : fs.From (fun names _ => memberOf? name members names) place vs := by
  induction fs generalizing place with
  | nil => trivial
  | cons f rest ih =>
    obtain ⟨v, vs⟩ := vs
    obtain ⟨hf, hrest⟩ := h
    refine ⟨?_, ih htells.2 hrest⟩
    change f.Of (memberOf? name members f.names) v
    rw [← lookup_eq_memberOf? htells.1 hnamed]
    exact hf

/-- **An object is read field by field.** -/
theorem from_of_ofMembers_eq_ok (hnames : fs.allNames.Nodup) {lift : Mismatch → ε}
    {name : K → Except ε String} {ignore : Decoder N ε Unit} {members : List (K × N)} {vs : Values ts}
    (h : fs.ofMembers lift name ignore members = .ok vs) :
    fs.From (fun names _ => memberOf? name members names) 0 vs := by
  rw [ofMembers_plain hnames] at h
  obtain ⟨named, hnamed, hvalues⟩ := exists_byName_of_ofMembers_eq_ok (distinct_plain hnames) h
  exact from_of_byName hnamed (tells_canonical hnames) hvalues

end Objects

/-! ## Lists -/

section Lists

variable {fs : Fields (Decoder N ε) ts} {find : List String → Nat → Option N} {place : Nat}

/-- What may be left out of a list may be left out by name. -/
theorem unnamed_of_unlisted {α : Type} {p : Presence α} {v : α} (h : p.unlisted = some v) :
    p.unnamed = some v := by
  cases p with
  | required => exact h
  | nullable w => cases h
  | defaulted w => exact h

theorem from_of_unlisted_eq_ok {title : String} {total given : Nat} {vs : Values ts}
    (hfind : ∀ names i, find names (place + i) = none) (h : fs.unlisted title total given = .ok vs) :
    fs.From find place vs := by
  induction fs generalizing place given with
  | nil => trivial
  | cons f rest ih =>
    obtain ⟨v, vs⟩ := vs
    rw [unlisted] at h
    split at h
    · cases h
    · next w hpresence =>
      obtain ⟨ws, hws, heq⟩ := map_eq_ok_iff.mp h
      obtain ⟨rfl, rfl⟩ := Prod.mk.inj heq
      refine ⟨?_, ih (fun names i => ?_) hws⟩
      · rw [show find f.names place = none from hfind f.names 0]
        exact unnamed_of_unlisted hpresence
      · rw [Nat.add_assoc, hfind]

/-- **A list is read field by field.** -/
theorem from_of_ofItems_eq_ok {lift : Mismatch → ε} {title : String} {total given : Nat}
    {nodes left : List N} {vs : Values ts} (hfind : ∀ names i, find names (place + i) = nodes[i]?)
    (h : fs.ofItems lift title total given nodes = .ok (vs, left)) : fs.From find place vs := by
  induction fs generalizing place given nodes with
  | nil => trivial
  | cons f rest ih =>
    cases nodes with
    | nil =>
      rw [ofItems, mapError_eq_ok_iff, map_eq_ok_iff] at h
      obtain ⟨ws, hws, heq⟩ := h
      obtain ⟨rfl, -⟩ := Prod.mk.inj heq
      exact from_of_unlisted_eq_ok (by simpa using hfind) hws
    | cons node nodes =>
      simp only [ofItems, bind_eq_ok_iff] at h
      obtain ⟨v, hv, ⟨ws, left'⟩, hws, heq⟩ := h
      obtain ⟨rfl, rfl⟩ := Prod.mk.inj (Except.ok.inj heq)
      refine ⟨?_, ih (fun names i => ?_) hws⟩
      · rw [show find f.names place = some node from hfind f.names 0]
        exact hv
      · rw [Nat.add_assoc, Nat.add_comm 1 i, hfind, List.getElem?_cons_succ]

end Lists

end Fields

end Waterfall
