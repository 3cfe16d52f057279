import Mathlib.Data.List.Forall2
import Waterfall.Decode.Tree

/-!
# Records read by name

A record is read member by member, and what has been read of each field is carried along. Whatever the
order of the members, the outcome is that of reading each field on its own: from the member of its name,
or from its default where no member has it (`Fields.ByName`). That holds as long as the names of the fields
are distinct; where those of the members are distinct too, nothing else is needed for a record to be read.

Which complaint is made about a record that cannot be read depends on the order, and is not settled
here.
-/

namespace Waterfall

/-! ## Steps that may fail -/

theorem bind_eq_ok_iff {α β ε : Type} {x : Except ε α} {f : α → Except ε β} {b : β} :
    x >>= f = .ok b ↔ ∃ a, x = .ok a ∧ f a = .ok b := by
  cases x <;> simp [bind, Except.bind]

theorem map_eq_ok_iff {α β ε : Type} {x : Except ε α} {f : α → β} {b : β} :
    x.map f = .ok b ↔ ∃ a, x = .ok a ∧ f a = b := by
  cases x <;> simp [Except.map]

theorem mapError_eq_ok_iff {α ε ε' : Type} {x : Except ε α} {f : ε → ε'} {a : α} :
    x.mapError f = .ok a ↔ x = .ok a := by
  cases x <;> simp [Except.mapError]

theorem toOption_eq_some_iff {α ε : Type} {x : Except ε α} {a : α} :
    x.toOption = some a ↔ x = .ok a := by
  cases x <;> simp [Except.toOption]

theorem eq_ok_of_toOption_eq_some {α ε : Type} {x : Except ε α} {a : α}
    (h : x.toOption = some a) : x = .ok a :=
  toOption_eq_some_iff.mp h

/-- All items of a list are read when each of them is. -/
theorem mapM_eq_ok_iff {α β ε : Type} {f : α → Except ε β} {xs : List α} {ys : List β} :
    xs.mapM f = .ok ys ↔ List.Forall₂ (fun x y => f x = .ok y) xs ys := by
  induction xs generalizing ys with
  | nil =>
    rw [List.mapM_nil, List.forall₂_nil_left_iff]
    exact ⟨fun h => (Except.ok.inj h).symm, fun h => congrArg _ h.symm⟩
  | cons x rest ih =>
    simp only [List.mapM_cons, bind_eq_ok_iff, ih, List.forall₂_cons_left_iff]
    constructor
    · rintro ⟨y, hy, tail, htail, heq⟩
      exact ⟨y, tail, hy, htail, (Except.ok.inj heq).symm⟩
    · rintro ⟨y, tail, hy, htail, rfl⟩
      exact ⟨y, hy, tail, htail, rfl⟩

theorem Decoder.map_apply {N α β ε : Type} (f : α → β) (read : Decoder N ε α) (node : N) :
    (f <$> read) node = (read node).map f :=
  rfl

/-! ## Fields and members by name -/

section ByName

variable {N ε : Type}

/-- The value of the field is that of the member of its name, or its default without one. -/
def Field.ByName {α : Type} (f : Field (Decoder N ε) α) (members : List (String × N)) (v : α) :
    Prop :=
  match members.lookup f.name with
  | some node => f.read node = .ok v
  | none => f.presence.unnamed = some v

namespace Fields

/-- The names of the fields, in order. -/
def names {R : Type → Type} : {ts : List Type} → Fields R ts → List String
  | _, .nil => []
  | _, .cons f rest => f.name :: rest.names

/-- Each field has one name, and no other field has it. -/
def Distinct {R : Type → Type} : {ts : List Type} → Fields R ts → Prop
  | _, .nil => True
  | _, .cons f rest => f.otherName = none ∧ f.name ∉ rest.names ∧ rest.Distinct

/-- Each field has its value by name. -/
def ByName (members : List (String × N)) :
    {ts : List Type} → Fields (Decoder N ε) ts → Values ts → Prop
  | _, .nil, _ => True
  | _, .cons f rest, (v, vs) => f.ByName members v ∧ rest.ByName members vs

/-- Reading these members takes the fields read so far from one state to the other: a field that a
member names was not read before, and any other field stays as it was. -/
def Filled (members : List (String × N)) :
    {ts : List Type} → Fields (Decoder N ε) ts → Slots ts → Slots ts → Prop
  | _, .nil, _, _ => True
  | _, .cons f rest, (slot, slots), (slot', slots') =>
    (match members.lookup f.name with
      | some node => slot = none ∧ ∃ v, f.read node = .ok v ∧ slot' = some v
      | none => slot' = slot) ∧
    rest.Filled members slots slots'

variable {ts : List Type}

theorem filled_nil_iff {fs : Fields (Decoder N ε) ts} {slots slots' : Slots ts} :
    fs.Filled [] slots slots' ↔ slots' = slots := by
  induction fs with
  | nil => simp [Filled]
  | cons f rest ih =>
    obtain ⟨slot, slots⟩ := slots
    obtain ⟨slot', slots'⟩ := slots'
    simp [Filled, ih, Prod.ext_iff]

/-- A member that no field has changes nothing. -/
theorem filled_of_not_mem {fs : Fields (Decoder N ε) ts} {key : String} (node : N)
    (h : key ∉ fs.names) {slots slots' : Slots ts} :
    fs.Filled [(key, node)] slots slots' ↔ slots' = slots := by
  induction fs with
  | nil => simp [Filled]
  | cons f rest ih =>
    obtain ⟨slot, slots⟩ := slots
    obtain ⟨slot', slots'⟩ := slots'
    simp only [names, List.mem_cons, not_or] at h
    have hne : (f.name == key) = false := by simpa using fun heq => h.1 heq.symm
    simp [Filled, List.lookup_cons, hne, ih h.2, Prod.ext_iff]

/-- Members read one after the other are read as a whole; a repeated name would find its field read
already. -/
theorem filled_cons_of_filled {fs : Fields (Decoder N ε) ts} {key : String} {node : N}
    {members : List (String × N)} {slots mid slots' : Slots ts} (hfirst : fs.Filled [(key, node)] slots mid)
    (hrest : fs.Filled members mid slots') : fs.Filled ((key, node) :: members) slots slots' := by
  induction fs with
  | nil => trivial
  | cons f rest ih =>
    obtain ⟨slot, slots⟩ := slots
    obtain ⟨slot₁, mid⟩ := mid
    obtain ⟨slot', slots'⟩ := slots'
    refine ⟨?_, ih hfirst.2 hrest.2⟩
    obtain ⟨hfirst, -⟩ := hfirst
    obtain ⟨hrest, -⟩ := hrest
    by_cases hf : f.name = key
    · simp only [List.lookup_cons, hf, beq_self_eq_true] at hfirst ⊢
      obtain ⟨hnone, v, hread, rfl⟩ := hfirst
      rw [hf] at hrest
      cases hlater : members.lookup key with
      | some other => simp [hlater] at hrest
      | none =>
        simp only [hlater] at hrest
        exact ⟨hnone, v, hread, hrest⟩
    · have hne : (f.name == key) = false := by simpa using hf
      simp only [List.lookup_cons, hne, List.lookup_nil] at hfirst ⊢
      rwa [hfirst] at hrest

/-- Members are read one after the other. -/
theorem filled_cons_iff {fs : Fields (Decoder N ε) ts} {key : String} {node : N}
    {members : List (String × N)} (hkey : key ∉ members.map Prod.fst) {slots slots' : Slots ts} :
    fs.Filled ((key, node) :: members) slots slots' ↔
      ∃ mid, fs.Filled [(key, node)] slots mid ∧ fs.Filled members mid slots' := by
  refine ⟨fun h => ?_, fun ⟨mid, hfirst, hrest⟩ => filled_cons_of_filled hfirst hrest⟩
  induction fs with
  | nil => simp [Filled]
  | cons f rest ih =>
    obtain ⟨slot, slots⟩ := slots
    obtain ⟨slot', slots'⟩ := slots'
    obtain ⟨hhere, htail⟩ := h
    obtain ⟨mid, hmid, hrest⟩ := ih htail
    by_cases hf : f.name = key
    · -- The member is this field's, and none of the later ones is.
      have hlater : members.lookup f.name = none := by
        rw [List.lookup_eq_none_iff]
        intro m hm
        have : m.1 ≠ key := fun heq => hkey (List.mem_map.mpr ⟨m, hm, heq⟩)
        simpa [hf] using this.symm
      simp only [List.lookup_cons, hf, beq_self_eq_true] at hhere hlater
      obtain ⟨hnone, v, hread, rfl⟩ := hhere
      exact ⟨(some v, mid), ⟨by simp [hf, hnone, hread], hmid⟩, by simp [hf, hlater], hrest⟩
    · have hne : (f.name == key) = false := by simpa using hf
      simp only [List.lookup_cons, hne] at hhere
      exact ⟨(slot, mid), ⟨by simp [List.lookup_cons, hne], hmid⟩, hhere, hrest⟩

/-- What is done for a member, and what that does to the fields read so far. -/
theorem lookup_spec {fs : Fields (Decoder N ε) ts} (hfs : fs.Distinct) (key : String)
    (slots : Slots ts) :
    match fs.lookup key slots with
    | .unknown => key ∉ fs.names
    | .repeated _ => ∀ node slots', ¬ fs.Filled [(key, node)] slots slots'
    | .takes read =>
      ∀ node slots', read node = .ok slots' ↔ fs.Filled [(key, node)] slots slots' := by
  induction fs with
  | nil => simp [lookup, names]
  | cons f rest ih =>
    obtain ⟨slot, slots⟩ := slots
    obtain ⟨hone, hnot, hrest⟩ := hfs
    by_cases hf : key = f.name
    · subst hf
      have hanswers : f.answersTo f.name = true := by simp [Field.answersTo]
      simp only [lookup, hanswers, if_true]
      cases slot with
      | some v => simp [Filled]
      | none =>
        simp only [Option.isSome_none, Bool.false_eq_true, if_false, Filled, List.lookup_cons,
          beq_self_eq_true, true_and, filled_of_not_mem _ hnot]
        rintro node ⟨slot', slots'⟩
        rw [Decoder.map_apply, map_eq_ok_iff]
        simp only [Prod.mk.injEq]
        constructor
        · rintro ⟨v, hread, rfl, rfl⟩
          exact ⟨⟨v, hread, rfl⟩, rfl⟩
        · rintro ⟨⟨v, hread, rfl⟩, rfl⟩
          exact ⟨v, hread, rfl, rfl⟩
    · have hanswers : f.answersTo key = false := by simp [Field.answersTo, hone, hf]
      have hne : (f.name == key) = false := by simpa using fun heq => hf heq.symm
      have htail := ih hrest slots
      simp only [lookup, hanswers, Bool.false_eq_true, if_false]
      split at htail
      · next hlookup => simp [hlookup, names, hf, htail]
      · next hlookup => simp [hlookup, Filled, List.lookup_cons, hne, htail]
      · next read hlookup =>
        simp only [hlookup, Filled, List.lookup_cons, hne, List.lookup_nil]
        rintro node ⟨slot', slots'⟩
        rw [Decoder.map_apply, map_eq_ok_iff]
        simp [← htail, Prod.ext_iff, eq_comm, and_comm]

/-- Members with their names read. -/
def Named {K : Type} (name : K → Except ε String) : List (K × N) → List (String × N) → Prop :=
  List.Forall₂ fun m n => name m.1 = .ok n.1 ∧ m.2 = n.2

theorem exists_filled_of_readMembers_eq_ok {K : Type} {lift : Mismatch → ε} {name : K → Except ε String}
    {ignore : Decoder N ε Unit} {fs : Fields (Decoder N ε) ts} (hfs : fs.Distinct)
    {members : List (K × N)} {slots slots' : Slots ts}
    (h : fs.readMembers lift name ignore slots members = .ok slots') :
    ∃ named, Named name members named ∧ fs.Filled named slots slots' := by
  induction members generalizing slots with
  | nil =>
    obtain rfl := Except.ok.inj h
    exact ⟨[], .nil, filled_nil_iff.mpr rfl⟩
  | cons m rest ih =>
    obtain ⟨k, node⟩ := m
    simp only [readMembers, bind_eq_ok_iff] at h
    obtain ⟨key, hkey, h⟩ := h
    have hstep := lookup_spec hfs key slots
    split at hstep
    · next hlookup =>
      simp only [hlookup, bind_eq_ok_iff] at h
      obtain ⟨-, -, h⟩ := h
      obtain ⟨named, hnamed, hfilled⟩ := ih h
      exact ⟨(key, node) :: named, .cons ⟨hkey, rfl⟩ hnamed,
        filled_cons_of_filled ((filled_of_not_mem node hstep).mpr rfl) hfilled⟩
    · next hlookup => simp [hlookup] at h
    · next read hlookup =>
      simp only [hlookup, bind_eq_ok_iff] at h
      obtain ⟨mid, hmid, h⟩ := h
      obtain ⟨named, hnamed, hfilled⟩ := ih h
      exact ⟨(key, node) :: named, .cons ⟨hkey, rfl⟩ hnamed,
        filled_cons_of_filled ((hstep node mid).mp hmid) hfilled⟩

/-- Names that are given as they are. -/
theorem named_ok_iff {members named : List (String × N)} :
    Named (ε := ε) .ok members named ↔ members = named := by
  have hsame : (fun m n : String × N => (Except.ok m.1 : Except ε String) = .ok n.1 ∧ m.2 = n.2) = Eq := by
    funext m n
    simp [Prod.ext_iff]
  rw [Named, hsame, List.forall₂_eq_eq_eq]

theorem filled_of_readMembers_eq_ok {fs : Fields (Decoder N Mismatch) ts} (hfs : fs.Distinct)
    {members : List (String × N)} {slots slots' : Slots ts}
    (h : fs.readMembers id .ok (fun _ => .ok ()) slots members = .ok slots') :
    fs.Filled members slots slots' := by
  obtain ⟨named, hnamed, hfilled⟩ := exists_filled_of_readMembers_eq_ok hfs h
  obtain rfl := named_ok_iff.mp hnamed
  exact hfilled

/-- All members are read when each finds a field of its own or none at all. -/
theorem readMembers_eq_ok_iff {fs : Fields (Decoder N Mismatch) ts} (hfs : fs.Distinct)
    {members : List (String × N)} (hkeys : (members.map Prod.fst).Nodup) {slots slots' : Slots ts} :
    fs.readMembers id .ok (fun _ => .ok ()) slots members = .ok slots' ↔
      fs.Filled members slots slots' := by
  refine ⟨filled_of_readMembers_eq_ok hfs, fun h => ?_⟩
  induction members generalizing slots with
  | nil => rw [filled_nil_iff.mp h, readMembers]
  | cons m rest ih =>
    obtain ⟨key, node⟩ := m
    obtain ⟨hkey, hrest⟩ := List.nodup_cons.mp hkeys
    obtain ⟨mid, hfirst, hlater⟩ := (filled_cons_iff hkey).mp h
    have hstep := lookup_spec hfs key slots
    split at hstep
    · next hlookup =>
      obtain rfl := (filled_of_not_mem node hstep).mp hfirst
      simpa [readMembers, hlookup, bind_eq_ok_iff] using ih hrest hlater
    · next hlookup => exact absurd hfirst (hstep node mid)
    · next read hlookup =>
      simp only [readMembers, hlookup, bind_eq_ok_iff, Except.ok.injEq, exists_eq_left']
      exact ⟨mid, (hstep node mid).mpr hfirst, ih hrest hlater⟩

/-- A record is complete when every field was read or may be left out. -/
theorem complete_filled_iff {fs : Fields (Decoder N ε) ts} {members : List (String × N)}
    {vs : Values ts} :
    (∃ slots, fs.Filled members fs.empty slots ∧ fs.complete slots = .ok vs) ↔
      fs.ByName members vs := by
  induction fs with
  | nil => simp [Filled, complete, ByName]
  | cons f rest ih =>
    obtain ⟨v, vs⟩ := vs
    simp only [ByName, Field.ByName, ← ih]
    cases hmember : members.lookup f.name with
    | some node =>
      simp only [Filled, empty, hmember, complete, Prod.exists]
      constructor
      · rintro ⟨slot, slots, ⟨⟨-, w, hread, rfl⟩, hfilled⟩, hcomplete⟩
        obtain ⟨ws, hws, heq⟩ := map_eq_ok_iff.mp hcomplete
        obtain ⟨rfl, rfl⟩ := Prod.mk.inj heq
        exact ⟨hread, slots, hfilled, hws⟩
      · rintro ⟨hread, slots, hfilled, hcomplete⟩
        exact ⟨some v, slots, ⟨⟨trivial, v, hread, rfl⟩, hfilled⟩,
          map_eq_ok_iff.mpr ⟨vs, hcomplete, rfl⟩⟩
    | none =>
      simp only [Filled, empty, hmember, complete, Prod.exists]
      constructor
      · rintro ⟨slot, slots, ⟨rfl, hfilled⟩, hcomplete⟩
        cases hdefault : f.presence.unnamed with
        | none => simp [hdefault] at hcomplete
        | some w =>
          simp only [hdefault, Option.orElse_none] at hcomplete
          obtain ⟨ws, hws, heq⟩ := map_eq_ok_iff.mp hcomplete
          obtain ⟨rfl, rfl⟩ := Prod.mk.inj heq
          exact ⟨rfl, slots, hfilled, hws⟩
      · rintro ⟨hdefault, slots, hfilled, hcomplete⟩
        refine ⟨none, slots, ⟨rfl, hfilled⟩, ?_⟩
        simp only [hdefault, Option.orElse_none]
        exact map_eq_ok_iff.mpr ⟨vs, hcomplete, rfl⟩

/-- **A record is read by name.** From members with distinct names, in whatever order, each field gets
the value of the member of its name, or its default without one. -/
theorem ofMembers_eq_ok_iff {fs : Fields (Decoder N Mismatch) ts} (hfs : fs.Distinct)
    {members : List (String × N)} (hkeys : (members.map Prod.fst).Nodup) {vs : Values ts} :
    fs.ofMembers id .ok (fun _ => .ok ()) members = .ok vs ↔ fs.ByName members vs := by
  simp only [ofMembers, bind_eq_ok_iff, mapError_eq_ok_iff, readMembers_eq_ok_iff hfs hkeys,
    complete_filled_iff]

/-- Whatever the members are called and whatever else stands among them, a record that is read has each
value by name. -/
theorem exists_byName_of_ofMembers_eq_ok {K : Type} {lift : Mismatch → ε} {name : K → Except ε String}
    {ignore : Decoder N ε Unit} {fs : Fields (Decoder N ε) ts} (hfs : fs.Distinct)
    {members : List (K × N)} {vs : Values ts} (h : fs.ofMembers lift name ignore members = .ok vs) :
    ∃ named, Named name members named ∧ fs.ByName named vs := by
  simp only [ofMembers, bind_eq_ok_iff, mapError_eq_ok_iff] at h
  obtain ⟨slots, hread, hcomplete⟩ := h
  obtain ⟨named, hnamed, hfilled⟩ := exists_filled_of_readMembers_eq_ok hfs hread
  exact ⟨named, hnamed, complete_filled_iff.mp ⟨slots, hfilled, hcomplete⟩⟩

/-- Whatever the names of the members, a record that is read has each value by name. -/
theorem byName_of_ofMembers_eq_ok {fs : Fields (Decoder N Mismatch) ts} (hfs : fs.Distinct)
    {members : List (String × N)} {vs : Values ts}
    (h : fs.ofMembers id .ok (fun _ => .ok ()) members = .ok vs) : fs.ByName members vs := by
  obtain ⟨named, hnamed, hvalues⟩ := exists_byName_of_ofMembers_eq_ok hfs h
  obtain rfl := named_ok_iff.mp hnamed
  exact hvalues

end Fields

end ByName

end Waterfall
