import Waterfall.Proofs.Json.Arranging
import Waterfall.Proofs.Json.RealNumber

/-!
# Reading what is laid out over lines

The form with a line for each item is a text of the document but for its real numbers, of which the text
holds a decimal, or null where there is none (`isTextOf_toPrettyText`). So `Json.restored` is what a reader
makes of it: everything else comes back as it was, with the members of each object found under their
names (`field?_restored`).
-/

namespace Waterfall.Json

/-! ## Documents after writing and reading -/

/-- What the text of a number is read as: a number, or null. -/
def rereadNumber (n : JsonNumber) : Json :=
  match ofText (numberText n) with
  | .ok (.number m) => .number m
  | _ => .null

mutual

/-- The document with the numbers that are read of its texts. -/
def reread : Json → Json
  | .number n => rereadNumber n
  | .list vs => .list (rereadItems vs)
  | .object ms => .object (rereadMembers ms)
  | v => v

def rereadItems : List Json → List Json
  | [] => []
  | v :: vs => reread v :: rereadItems vs

def rereadMembers : List (String × Json) → List (String × Json)
  | [] => []
  | (name, v) :: ms => (name, reread v) :: rereadMembers ms

end

/-- What is read of the text of a document. -/
def restored (d : Json) : Json := d.reread.arranged

theorem rereadNumber_cases (n : JsonNumber) : rereadNumber n = .null ∨ ∃ m, rereadNumber n = .number m := by
  unfold rereadNumber
  split
  · exact .inr ⟨_, rfl⟩
  · exact .inl rfl

mutual

theorem nesting_reread : ∀ d : Json, d.reread.nesting = d.nesting
  | .null | .flag _ | .text _ => rfl
  | .number n => by
    rcases rereadNumber_cases n with h | ⟨m, h⟩ <;> rw [reread, h] <;> rfl
  | .list vs => by rw [reread, nesting, nesting, nesting_rereadItems vs]
  | .object ms => by rw [reread, nesting, nesting, nesting_rereadMembers ms]

theorem nesting_rereadItems : ∀ vs : List Json, nestingItems (rereadItems vs) = nestingItems vs
  | [] => rfl
  | v :: vs => by rw [rereadItems, nestingItems, nestingItems, nesting_reread v, nesting_rereadItems vs]

theorem nesting_rereadMembers : ∀ ms : List (String × Json),
    nestingMembers (rereadMembers ms) = nestingMembers ms
  | [] => rfl
  | (_, v) :: ms => by
    rw [rereadMembers, nestingMembers, nestingMembers, nesting_reread v, nesting_rereadMembers ms]

end

theorem nestingItems_map_le {α : Type} {write : α → Json} {vs : List α} {k : Nat}
    (h : ∀ v ∈ vs, (write v).nesting ≤ k) : nestingItems (vs.map write) ≤ k := by
  induction vs with
  | nil => exact Nat.zero_le k
  | cons v vs ih =>
    exact max_le (h v List.mem_cons_self) (ih fun w hw => h w (List.mem_cons_of_mem v hw))

theorem nesting_optional_le {α : Type} {write : α → Json} {k : Nat} (h : ∀ v, (write v).nesting ≤ k)
    (value : Option α) : (Json.optional write value).nesting ≤ k := by
  cases value with
  | none => exact Nat.zero_le k
  | some v => exact h v

/-! ## Numbers -/

/-- Whole numbers of 64 bits and singles. -/
def IsWritable : JsonNumber → Prop
  | .whole n => WithinRange n
  | .single _ => True
  | .double _ => False

theorem rereadNumber_of_prints {n m : JsonNumber} (h : Prints (.value (.number m)) (numberText n)) :
    rereadNumber n = .number m := by
  rw [rereadNumber, ofText_of_isTextOf h.isTextOf (Nat.zero_le _)]
  rfl

theorem rereadNumber_whole {n : Int} (h : WithinRange n) :
    rereadNumber (.whole n) = .number (.whole n) :=
  rereadNumber_of_prints fun _ hrest => spells_whole h hrest

/-- A number prints what it is read back as. -/
theorem prints_number {n : JsonNumber} (h : IsWritable n) :
    Prints (.value (rereadNumber n)) (numberText n) := by
  cases n with
  | whole n =>
    rw [rereadNumber_whole h]
    exact fun _ hrest => spells_whole h hrest
  | double x => exact h.elim
  | single x =>
    cases hx : Binary.ofFloat32 x with
    | finite s m e =>
      obtain ⟨y, hy⟩ := exists_spells_single hx
      rw [rereadNumber_of_prints hy]
      exact hy
    | nan =>
      have htext : numberText (.single x) = "null".toList := by rw [numberText, hx, realText]; rintro _ _ _ ⟨⟩
      rw [rereadNumber, htext]
      exact fun _ _ => .nullWord
    | infinite s =>
      have htext : numberText (.single x) = "null".toList := by rw [numberText, hx, realText]; rintro _ _ _ ⟨⟩
      rw [rereadNumber, htext]
      exact fun _ _ => .nullWord

/-! ## Documents -/

mutual

/-- A document all of whose numbers are writable. -/
def AllWritable : Json → Prop
  | .number n => IsWritable n
  | .list vs => AllWritableItems vs
  | .object ms => AllWritableMembers ms
  | _ => True

def AllWritableItems : List Json → Prop
  | [] => True
  | v :: vs => AllWritable v ∧ AllWritableItems vs

def AllWritableMembers : List (String × Json) → Prop
  | [] => True
  | (_, v) :: ms => AllWritable v ∧ AllWritableMembers ms

end

theorem allWritableItems_map {α : Type} {write : α → Json} {vs : List α}
    (h : ∀ v ∈ vs, AllWritable (write v)) : AllWritableItems (vs.map write) := by
  induction vs with
  | nil => trivial
  | cons v vs ih =>
    exact ⟨h v List.mem_cons_self, ih fun w hw => h w (List.mem_cons_of_mem v hw)⟩

theorem allWritable_optional {α : Type} {write : α → Json} {value : Option α}
    (h : ∀ v, value = some v → AllWritable (write v)) : AllWritable (.optional write value) := by
  cases value with
  | none => trivial
  | some v => exact h v rfl

theorem areBlank_newLine (level : Nat) : AreBlank (newLine level) := by
  intro c hc
  rcases List.mem_cons.mp hc with rfl | hc
  · decide
  · obtain rfl := List.eq_of_mem_replicate hc
    decide

theorem areBlank_space : AreBlank [' '] := by
  intro c hc
  obtain rfl := List.mem_singleton.mp hc
  decide

theorem bracketed_cons (opening closing : Char) (level : Nat) (part : List Char) (parts : List (List Char)) :
    bracketed opening closing level (part :: parts) =
      opening :: (newLine (level + 1) ++ separated (',' :: newLine (level + 1)) (part :: parts) ++
        newLine level ++ [closing]) := by
  simp [bracketed]

mutual

theorem prints_indented (level : Nat) : ∀ d : Json, AllWritable d →
    Prints (.value d.reread) (indented level d)
  | .null, _ => fun _ _ => .nullWord
  | .flag b, _ => prints_flag b
  | .number _, hd => prints_number hd
  | .text s, _ => prints_text s
  | .list [], _ => prints_list areBlank_nil areBlank_nil .nil
  | .object [], _ => prints_object areBlank_nil areBlank_nil .nil
  | .list (v :: vs), hd => by
    have h := prints_list (areBlank_newLine (level + 1)) (areBlank_newLine level)
      (prints_indentedItems (level + 1) (v :: vs) hd)
    rwa [indentedItems, ← bracketed_cons, ← indentedItems] at h
  | .object (m :: ms), hd => by
    have h := prints_object (areBlank_newLine (level + 1)) (areBlank_newLine level)
      (prints_indentedMembers (level + 1) (m :: ms) hd)
    rwa [indentedMembers, ← bracketed_cons, ← indentedMembers] at h

theorem prints_indentedItems (level : Nat) : ∀ vs : List Json, AllWritableItems vs →
    List.Forall₂ (fun v part => Prints (.value v) part) (rereadItems vs) (indentedItems level vs)
  | [], _ => .nil
  | v :: vs, h => .cons (prints_indented level v h.1) (prints_indentedItems level vs h.2)

theorem prints_indentedMembers (level : Nat) : ∀ ms : List (String × Json), AllWritableMembers ms →
    List.Forall₂ (fun m part => Prints (.member m.1 m.2) part) (rereadMembers ms)
      (indentedMembers level ms)
  | [], _ => .nil
  | (name, v) :: ms, h =>
    .cons (prints_member name areBlank_space (prints_indented level v h.1))
      (prints_indentedMembers level ms h.2)

end

/-- **What is laid out over lines is a text of the document**, but for its real numbers. -/
theorem isTextOf_toPrettyText {d : Json} (h : AllWritable d) : IsTextOf d.toPrettyText.toList d.reread := by
  rw [toPrettyText, String.toList_ofList]
  exact (prints_indented 0 d h).isTextOf

/-- So it is read, if it is not nested too deep. -/
theorem ofText_toPrettyText {d : Json} (h : AllWritable d) (hdepth : d.nesting ≤ mostNesting) :
    ofText d.toPrettyText.toList = .ok d.restored := by
  refine ofText_of_isTextOf (isTextOf_toPrettyText h) ?_
  rwa [nesting_reread]

/-! ## What is found in a document that was read -/

@[simp] theorem restored_null : restored .null = .null := rfl

@[simp] theorem restored_flag (b : Bool) : restored (.flag b) = .flag b := rfl

@[simp] theorem restored_text (s : String) : restored (.text s) = .text s := rfl

theorem restored_whole {n : Int} (h : WithinRange n) : restored (.whole n) = .whole n := by
  rw [restored, whole, reread, rereadNumber_whole h]
  rfl

theorem restored_list (vs : List Json) : restored (.list vs) = .list (vs.map restored) := by
  have hitems : rereadItems vs = vs.map reread := by
    induction vs with
    | nil => rfl
    | cons v vs ih => rw [rereadItems, ih, List.map_cons]
  rw [restored, reread, arranged, arrangedItems_eq_map, hitems, List.map_map]
  rfl

/-- The value of a member of an object. -/
def field? (d : Json) (name : String) : Option Json :=
  match d with
  | .object ms => member? name ms
  | _ => none

@[simp] theorem field?_object (ms : List (String × Json)) (name : String) :
    (object ms).field? name = ms.lookup name := rfl

/-- The names of the members are distinct. -/
def DistinctNames : Json → Prop
  | .object ms => (ms.map Prod.fst).Nodup
  | _ => True

theorem lookup_rereadMembers (ms : List (String × Json)) (name : String) :
    (rereadMembers ms).lookup name = (ms.lookup name).map reread := by
  induction ms with
  | nil => rfl
  | cons m ms ih =>
    obtain ⟨key, v⟩ := m
    rw [rereadMembers, List.lookup_cons, List.lookup_cons, ih]
    split <;> rfl

theorem names_rereadMembers (ms : List (String × Json)) :
    (rereadMembers ms).map Prod.fst = ms.map Prod.fst := by
  induction ms with
  | nil => rfl
  | cons m ms ih => rw [rereadMembers, List.map_cons, List.map_cons, ih]

/-- **Every member is found under its name.** -/
theorem field?_restored {d : Json} (hd : d.DistinctNames) (name : String) :
    d.restored.field? name = (d.field? name).map restored := by
  cases d with
  | object ms =>
    have hnames : ((rereadMembers ms).map Prod.fst).Nodup := names_rereadMembers ms ▸ hd
    rw [restored, reread, arranged, field?, field?, member?_arrangedMembers hnames, lookup_rereadMembers,
      Option.map_map, member?, List.lookup_nil, Option.or_none, member?]
    rfl
  | number n =>
    rcases rereadNumber_cases n with h | ⟨m, h⟩ <;> rw [restored, reread, h] <;> rfl
  | null | flag | text | list => rfl

end Waterfall.Json
