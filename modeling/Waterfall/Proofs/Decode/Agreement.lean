import Mathlib.Data.List.Forall2
import Waterfall.Proofs.Decode.Records

/-!
# Records that are read alike

Two documents may differ where no reader can tell the difference. `Agree R` says of two results that they
are the same error or values related by `R`; reading a record respects it, field by field: where members
of the same names are read alike, so are the records, and a complaint is made about both in the same words
(`Fields.ofMembers_agree`). Members that no field has are passed over (`Fields.ofMembers_filter`).
-/

namespace Waterfall

/-! ## Results that agree -/

/-- The same error, or values that are related. -/
inductive Agree {ε α : Type} (R : α → α → Prop) : Except ε α → Except ε α → Prop
  | ok {a b : α} : R a b → Agree R (.ok a) (.ok b)
  | error (e : ε) : Agree R (.error e) (.error e)

namespace Agree

variable {ε α β : Type} {R : α → α → Prop} {S : β → β → Prop} {x y : Except ε α}

theorem refl (hR : ∀ a, R a a) (x : Except ε α) : Agree R x x := by
  cases x with
  | error e => exact .error e
  | ok a => exact .ok (hR a)

theorem bind {f g : α → Except ε β} (h : Agree R x y) (hfg : ∀ a b, R a b → Agree S (f a) (g b)) :
    Agree S (x >>= f) (y >>= g) := by
  cases h with
  | error e => exact .error e
  | ok hab => exact hfg _ _ hab

theorem map {f g : α → β} (h : Agree R x y) (hfg : ∀ a b, R a b → S (f a) (g b)) :
    Agree S (x.map f) (y.map g) := by
  cases h with
  | error e => exact .error e
  | ok hab => exact .ok (hfg _ _ hab)

theorem mapError {ε' : Type} (h : Agree R x y) (f : ε → ε') : Agree R (x.mapError f) (y.mapError f) := by
  cases h with
  | error e => exact .error (f e)
  | ok hab => exact .ok hab

/-- What treats related values alike treats results alike that agree. -/
theorem eq_of {γ : Type} (h : Agree R x y) {f : Except ε α → γ}
    (hf : ∀ a b, R a b → f (.ok a) = f (.ok b)) : f x = f y := by
  cases h with
  | error e => rfl
  | ok hab => exact hf _ _ hab

/-- Items that are read alike give lists that are read alike. -/
theorem mapM {ν : Type} {f : ν → Except ε α} {vs ws : List ν}
    (h : List.Forall₂ (fun v w => Agree R (f v) (f w)) vs ws) :
    Agree (List.Forall₂ R) (vs.mapM f) (ws.mapM f) := by
  induction h with
  | nil => exact .ok .nil
  | @cons v w vs ws hvw _ ih =>
    rw [List.mapM_cons, List.mapM_cons]
    refine hvw.bind fun a b hab => ih.bind fun as bs htail => ?_
    exact .ok (.cons hab htail)

end Agree

/-! ## Fields that respect a relation -/

/-- A relation for the values of each field. -/
abbrev Relations : List Type → Type
  | [] => Unit
  | t :: ts => (t → t → Prop) × Relations ts

namespace Relations

def Holds : {ts : List Type} → Relations ts → Values ts → Values ts → Prop
  | [], _, _, _ => True
  | _ :: _, (R, Rs), (v, vs), (w, ws) => R v w ∧ Rs.Holds vs ws

/-- The same fields are read so far, and their values are related. -/
def HoldsSoFar : {ts : List Type} → Relations ts → Slots ts → Slots ts → Prop
  | [], _, _, _ => True
  | _ :: _, (R, Rs), (slot, slots), (slot', slots') => Option.Rel R slot slot' ∧ Rs.HoldsSoFar slots slots'

end Relations

/-- The same names in the same order, with nodes related as it is asked for the name. -/
def SameNames {N : Type} (same : String → N → N → Prop) : List (String × N) → List (String × N) → Prop :=
  List.Forall₂ fun m n => m.1 = n.1 ∧ same m.1 m.2 n.2

/-- As many nodes, related as it is asked for the names of their places. -/
structure SamePlaces {N : Type} (same : String → N → N → Prop) (names : List String) (vs ws : List N) :
    Prop where
  length_eq : vs.length = ws.length
  related : ∀ (i : Nat) (name : String) (v w : N),
    names[i]? = some name → vs[i]? = some v → ws[i]? = some w → same name v w

theorem SamePlaces.tail {N : Type} {same : String → N → N → Prop} {name : String} {names : List String}
    {v w : N} {vs ws : List N} (h : SamePlaces same (name :: names) (v :: vs) (w :: ws)) :
    SamePlaces same names vs ws where
  length_eq := by simpa using h.length_eq
  related i name v w hname hv hw := h.related (i + 1) name v w (by simpa) (by simpa) (by simpa)

/-- The field reads related nodes alike. -/
structure Field.Respects {N ε α : Type} (f : Field (Decoder N ε) α) (same : N → N → Prop)
    (R : α → α → Prop) : Prop where
  read : ∀ v w, same v w → Agree R (f.read v) (f.read w)
  refl : ∀ a, R a a

namespace Fields

/-- Each field reads nodes alike that are related as it is asked for its name. -/
def Respects {N ε : Type} (same : String → N → N → Prop) :
    {ts : List Type} → Fields (Decoder N ε) ts → Relations ts → Prop
  | _, .nil, _ => True
  | _, .cons f rest, (R, Rs) => f.Respects (same f.name) R ∧ rest.Respects same Rs

variable {N : Type} {ts : List Type} {same : String → N → N → Prop} {fs : Fields (Decoder N Mismatch) ts}
  {Rs : Relations ts}

theorem Respects.holds_refl (h : fs.Respects same Rs) (vs : Values ts) : Rs.Holds vs vs := by
  induction fs with
  | nil => trivial
  | cons f rest ih => exact ⟨h.1.refl vs.1, ih h.2 vs.2⟩

theorem holdsSoFar_empty : Rs.HoldsSoFar fs.empty fs.empty := by
  induction fs with
  | nil => trivial
  | cons f rest ih => exact ⟨.none, ih⟩

/-- What a name asks for, of two records read alike so far. -/
theorem lookup_agree (hfs : fs.Distinct) (h : fs.Respects same Rs) (key : String)
    {slots slots' : Slots ts} (hslots : Rs.HoldsSoFar slots slots') :
    match fs.lookup key slots, fs.lookup key slots' with
    | .unknown, .unknown => True
    | .repeated name, .repeated name' => name = name'
    | .takes read, .takes read' => ∀ v w, same key v w → Agree Rs.HoldsSoFar (read v) (read' w)
    | _, _ => False := by
  induction fs with
  | nil => trivial
  | cons f rest ih =>
    obtain ⟨slot, slots⟩ := slots
    obtain ⟨slot', slots'⟩ := slots'
    obtain ⟨hslot, hslots⟩ := hslots
    obtain ⟨hone, hnot, hdistinct⟩ := hfs
    by_cases hf : key = f.name
    · subst hf
      have hanswers : f.answersTo f.name = true := by simp [Field.answersTo]
      simp only [lookup, hanswers, if_true]
      cases hslot with
      | some _ => rfl
      | none =>
        intro v w hvw
        exact (h.1.read v w hvw).map fun a b hab => ⟨.some hab, hslots⟩
    · have hanswers : f.answersTo key = false := by simp [Field.answersTo, hone, hf]
      simp only [lookup, hanswers, Bool.false_eq_true, if_false]
      have htail := ih hdistinct h.2 hslots
      split at htail
      · next hleft hright => simp only [hleft, hright]
      · next hleft hright => simpa only [hleft, hright] using htail
      · next hleft hright =>
        simp only [hleft, hright]
        intro v w hvw
        exact (htail v w hvw).map fun s s' hs => ⟨hslot, hs⟩
      · exact htail.elim

section Steps

variable {key : String} {node : N} {ms : List (String × N)} {slots : Slots ts}

theorem readMembers_of_unknown (h : fs.lookup key slots = .unknown) :
    fs.readMembers id .ok (fun _ => .ok ()) slots ((key, node) :: ms) =
      fs.readMembers id .ok (fun _ => .ok ()) slots ms := by
  simp [readMembers, h, bind, Except.bind]

theorem readMembers_of_repeated {name : String} (h : fs.lookup key slots = .repeated name) :
    fs.readMembers id .ok (fun _ => .ok ()) slots ((key, node) :: ms) =
      .error (.duplicateField name) := by
  simp [readMembers, h, bind, Except.bind]

theorem readMembers_of_takes {read : Decoder N Mismatch (Slots ts)} (h : fs.lookup key slots = .takes read) :
    fs.readMembers id .ok (fun _ => .ok ()) slots ((key, node) :: ms) =
      read node >>= fun slots => fs.readMembers id .ok (fun _ => .ok ()) slots ms := by
  simp [readMembers, h, bind, Except.bind]

end Steps

theorem readMembers_agree (hfs : fs.Distinct) (h : fs.Respects same Rs) {ms ns : List (String × N)}
    (hms : SameNames same ms ns) {slots slots' : Slots ts} (hslots : Rs.HoldsSoFar slots slots') :
    Agree Rs.HoldsSoFar (fs.readMembers id .ok (fun _ => .ok ()) slots ms)
      (fs.readMembers id .ok (fun _ => .ok ()) slots' ns) := by
  induction hms generalizing slots slots' with
  | nil => exact .ok hslots
  | @cons m n ms ns hmn _ ih =>
    obtain ⟨key, v⟩ := m
    obtain ⟨key', w⟩ := n
    obtain ⟨rfl, hvw⟩ : key = key' ∧ same key v w := hmn
    have hstep := lookup_agree hfs h key hslots
    split at hstep
    · next hleft hright =>
      rw [readMembers_of_unknown hleft, readMembers_of_unknown hright]
      exact ih hslots
    · next hleft hright =>
      rw [readMembers_of_repeated hleft, readMembers_of_repeated hright, hstep]
      exact .error _
    · next hleft hright =>
      rw [readMembers_of_takes hleft, readMembers_of_takes hright]
      exact (hstep v w hvw).bind fun s s' hs => ih hs
    · exact hstep.elim

theorem complete_agree (h : fs.Respects same Rs) {slots slots' : Slots ts}
    (hslots : Rs.HoldsSoFar slots slots') : Agree Rs.Holds (fs.complete slots) (fs.complete slots') := by
  induction fs with
  | nil => exact .ok trivial
  | cons f rest ih =>
    obtain ⟨slot, slots⟩ := slots
    obtain ⟨slot', slots'⟩ := slots'
    obtain ⟨hslot, hslots⟩ := hslots
    have htail := ih h.2 hslots
    cases hslot with
    | some hab => exact htail.map fun vs ws hvs => ⟨hab, hvs⟩
    | none =>
      simp only [complete, Option.orElse_none]
      cases f.presence.unnamed with
      | none => exact .error _
      | some a => exact htail.map fun vs ws hvs => ⟨h.1.refl a, hvs⟩

/-- **Members of the same names that are read alike give records that are read alike.** -/
theorem ofMembers_agree (hfs : fs.Distinct) (h : fs.Respects same Rs) {ms ns : List (String × N)}
    (hms : SameNames same ms ns) :
    Agree Rs.Holds (fs.ofMembers id .ok (fun _ => .ok ()) ms)
      (fs.ofMembers id .ok (fun _ => .ok ()) ns) := by
  refine (readMembers_agree hfs h hms holdsSoFar_empty).bind fun slots slots' hslots => ?_
  exact (complete_agree h hslots).mapError id

/-- A list of values is read alike, and as many values are left over. -/
theorem ofItems_agree (h : fs.Respects same Rs) (title : String) (total given : Nat) {vs ws : List N}
    (hvs : SamePlaces same fs.names vs ws) :
    Agree (fun x y => Rs.Holds x.1 y.1 ∧ x.2.length = y.2.length) (fs.ofItems id title total given vs)
      (fs.ofItems id title total given ws) := by
  induction fs generalizing given vs ws with
  | nil => exact .ok ⟨trivial, hvs.length_eq⟩
  | cons f rest ih =>
    match vs, ws, hvs with
    | [], [], _ =>
      refine Agree.refl ?_ _
      intro x
      exact ⟨h.holds_refl x.1, rfl⟩
    | v :: vs, w :: ws, hvs =>
      refine (h.1.read v w (hvs.related 0 f.name v w rfl rfl rfl)).bind fun a b hab => ?_
      refine (ih h.2 (given + 1) hvs.tail).bind fun x y hxy => ?_
      exact .ok ⟨⟨hab, hxy.1⟩, hxy.2⟩
    | [], _ :: _, hvs => exact absurd hvs.length_eq (by simp)
    | _ :: _, [], hvs => exact absurd hvs.length_eq (by simp)

/-! ## Members that no field has -/

theorem lookup_eq_unknown (hfs : fs.Distinct) {key : String} (h : key ∉ fs.names) (slots : Slots ts) :
    fs.lookup key slots = .unknown := by
  induction fs with
  | nil => rfl
  | cons f rest ih =>
    obtain ⟨slot, slots⟩ := slots
    obtain ⟨hone, -, hdistinct⟩ := hfs
    simp only [names, List.mem_cons, not_or] at h
    obtain ⟨hf, hrest⟩ := h
    have hanswers : f.answersTo key = false := by simp [Field.answersTo, hone, hf]
    simp only [lookup, hanswers, Bool.false_eq_true, if_false, ih hdistinct hrest]

theorem readMembers_filter (hfs : fs.Distinct) {known : String → Bool}
    (hknown : ∀ name ∈ fs.names, known name = true) (ms : List (String × N)) (slots : Slots ts) :
    fs.readMembers id .ok (fun _ => .ok ()) slots (ms.filter (known ·.1)) =
      fs.readMembers id .ok (fun _ => .ok ()) slots ms := by
  induction ms generalizing slots with
  | nil => rfl
  | cons m ms ih =>
    obtain ⟨key, node⟩ := m
    cases hkey : known key with
    | false =>
      -- No field has the name, or it would be known.
      have hlookup : fs.lookup key slots = .unknown := by
        apply lookup_eq_unknown hfs
        intro hmem
        exact absurd (hknown key hmem) (by simp [hkey])
      rw [List.filter_cons_of_neg (by simp [hkey]), ih, readMembers_of_unknown hlookup]
    | true =>
      rw [List.filter_cons_of_pos (by simp [hkey])]
      cases hlookup : fs.lookup key slots with
      | unknown => rw [readMembers_of_unknown hlookup, readMembers_of_unknown hlookup, ih]
      | repeated name => rw [readMembers_of_repeated hlookup, readMembers_of_repeated hlookup]
      | takes read =>
        rw [readMembers_of_takes hlookup, readMembers_of_takes hlookup]
        simp only [ih]

/-- **Members that no field has are passed over.** -/
theorem ofMembers_filter (hfs : fs.Distinct) {known : String → Bool}
    (hknown : ∀ name ∈ fs.names, known name = true) (ms : List (String × N)) :
    fs.ofMembers id .ok (fun _ => .ok ()) (ms.filter (known ·.1)) =
      fs.ofMembers id .ok (fun _ => .ok ()) ms := by
  unfold ofMembers
  rw [readMembers_filter hfs hknown]

end Fields

end Waterfall
