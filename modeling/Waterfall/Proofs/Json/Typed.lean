import Mathlib.Data.List.Forall2
import Waterfall.Json.Typed
import Waterfall.Proofs.Decode.Records
import Waterfall.Proofs.Json.Reading

/-!
# Reading what is written of a record

A reader of a known shape reads a document as a value when it takes every text of the document off the
front of what stands next, with the value as result (`ReadsAs`). Words, numbers, optional values and lists
have one lemma each. A record is read as the values of its fields when the members of the document are
written in the order of the fields and each field reads its own (`readsAs_readRecord`); that goes by
induction on the fields for what each member does to the slots (`Fills`), and by induction on the members
for the loop that reads them.
-/

namespace Waterfall.Json

/-! ## Single values -/

/-- Every text of the document, wherever it stands, is read as the value and taken off. -/
def ReadsAs {α : Type} (read : Reader α) (d : Json) (v : α) : Prop :=
  ∀ cs start rest : List Char, Gap cs start → Spells (.value d) start rest → read cs = .ok (v, rest)

section Values

variable {α β : Type} {read : Reader α} {d : Json} {v : α}

/-- What is read is put into another form. -/
theorem ReadsAs.bind (h : ReadsAs read d v) {next : α → Reader β} {w : β} (hnext : next v = pure w) :
    ReadsAs (read >>= next) d w := by
  intro cs start rest hgap hspells
  rw [bind_of_ok (h cs start rest hgap hspells), hnext]
  rfl

theorem ReadsAs.map (h : ReadsAs read d v) (f : α → β) : ReadsAs (f <$> read) d (f v) := by
  intro cs start rest hgap hspells
  have hread := h cs start rest hgap hspells
  show (StateT.map f read) cs = _
  simp only [StateT.map, hread]
  rfl

theorem token_of_gap {c : Char} {cs tail : List Char} (h : Gap cs (c :: tail)) (hc : isGap c = false) :
    token cs = .ok (c, c :: tail) := by
  unfold token
  rw [h.skipGap_eq, skipGap_cons tail hc]

theorem readsAs_text (s : String) : ReadsAs readText (.text s) s := by
  intro cs start rest hgap hspells
  cases hspells with
  | text hs =>
    unfold readText
    rw [bind_of_ok (token_of_gap hgap rfl), if_pos rfl]
    exact hs

theorem readsAs_flag (b : Bool) : ReadsAs readFlag (.flag b) b := by
  intro cs start rest hgap hspells
  unfold readFlag
  cases hspells with
  | trueWord =>
    rw [bind_of_ok (token_of_gap hgap rfl)]
    rfl
  | falseWord =>
    rw [bind_of_ok (token_of_gap hgap rfl)]
    rfl

theorem readsAs_number (n : JsonNumber) (expected : String) :
    ReadsAs (readNumber expected) (.number n) n := by
  intro cs start rest hgap hspells
  unfold readNumber
  cases hspells with
  | negative hn =>
    rw [bind_of_ok (token_of_gap hgap rfl), if_pos rfl]
    exact hn
  | @number _ digit _ _ hdigit hn =>
    have hsign : digit ≠ '-' := by
      rintro rfl
      exact absurd hdigit (by decide)
    rw [bind_of_ok (token_of_gap hgap (isGap_of_isDigit hdigit)), if_neg hsign, if_pos hdigit]
    exact hn

theorem readsAs_whole {n least most : Int} (expected : String) (hleast : least ≤ n) (hmost : n ≤ most) :
    ReadsAs (readWhole least most expected) (.number (.whole n)) n := by
  intro cs start rest hgap hspells
  unfold readWhole
  rw [bind_of_ok (readsAs_number (.whole n) expected cs start rest hgap hspells)]
  simp only [hleast, hmost, and_self, if_true]
  rfl

/-- Only null starts like null. -/
theorem Spells.start_ne_null (hd : d ≠ .null) {cs rest : List Char} (h : Spells (.value d) cs rest)
    (tail : List Char) : cs ≠ 'n' :: tail := by
  rintro rfl
  cases h with
  | nullWord => exact hd rfl
  | number hdigit _ => exact absurd hdigit (by decide)

theorem readsAs_optional_none (read : Reader α) : ReadsAs (readOptional read) .null none := by
  intro cs start rest hgap hspells
  cases hspells with
  | nullWord =>
    unfold readOptional
    rw [hgap.skipGap_eq]
    rfl

theorem ReadsAs.optional (h : ReadsAs read d v) (hd : d ≠ .null) :
    ReadsAs (readOptional read) d (some v) := by
  intro cs start rest hgap hspells
  obtain ⟨c, tail, rfl, hc, -⟩ := hspells.value_start
  have hnull := hspells.start_ne_null hd
  unfold readOptional
  rw [hgap.skipGap_eq, skipGap_cons tail hc]
  split
  · exact absurd (by assumption) (hnull _)
  · rw [bind_of_ok (h _ _ rest (gap_refl _) hspells)]
    rfl

/-- A word of a fixed set, written alone. -/
theorem readsAs_variant {known : List (String × α)} {name : String} (h : known.lookup name = some v) :
    ReadsAs (readVariant known) (.text name) v := by
  intro cs start rest hgap hspells
  cases hspells with
  | text hs =>
    unfold readVariant
    have hword : wordOf known name rest = .ok (v, rest) := by
      unfold wordOf
      rw [h]
      rfl
    rw [bind_of_ok (token_of_gap hgap rfl), if_pos rfl]
    exact (bind_of_ok hs).trans hword

end Values

/-! ## Lists -/

section Lists

variable {α : Type} {read : Reader α}

/-- Items are read one after the other up to the closing bracket. -/
theorem itemsFrom_of_readsAs {ds : List Json} {vs : List α} (h : List.Forall₂ (ReadsAs read) ds vs)
    {first : Bool} {cs rest : List Char} (hspells : Spells (.items first ds) cs rest)
    {fuel : List Char} (hfuel : ds.length < fuel.length) :
    itemsFrom read fuel first cs = .ok (vs, ']' :: rest) := by
  induction h generalizing first cs fuel with
  | nil =>
    cases hspells with
    | noItem hgap => exact itemsFrom_of_end read hfuel (moreItems_of_end first hgap)
  | cons hv _ ih =>
    cases hspells with
    | nextItem hahead hvspells hvs =>
      obtain ⟨c, tail, rfl, hc, hend⟩ := hvspells.value_start
      exact itemsFrom_of_item (moreItems_of_ahead hahead hc hend)
        (hv _ _ _ (gap_refl _) hvspells) (fun _ => ih hvs) hfuel

theorem readsAs_list {ds : List Json} {vs : List α} (h : List.Forall₂ (ReadsAs read) ds vs) :
    ReadsAs (readList read) (.list ds) vs := by
  intro cs start rest hgap hspells
  cases hspells with
  | list hitems =>
    unfold readList
    rw [bind_of_ok (token_of_gap hgap rfl), if_pos rfl]
    exact items_of_itemsFrom (itemsFrom_of_readsAs h hitems hitems.fuel)

/-- A list is read back when each of its values is. -/
theorem readsAs_list_map {write : α → Json} {vs : List α} (h : ∀ v ∈ vs, ReadsAs read (write v) v) :
    ReadsAs (readList read) (.list (vs.map write)) vs := by
  refine readsAs_list (List.forall₂_map_left_iff.mpr ?_)
  rw [List.forall₂_same]
  exact h

end Lists

/-! ## Records -/

section Records

variable {ts : List Type}

/-- Each field reads the member of its place, which has its name. -/
def Written : {ts : List Type} → Fields Reader ts → List (String × Json) → Values ts → Prop
  | _, .nil, ms, _ => ms = []
  | _, .cons f rest, ms, (v, vs) =>
    ∃ d others, ms = (f.name, d) :: others ∧ ReadsAs f.read d v ∧ Written rest others vs

theorem Written.names_eq {fs : Fields Reader ts} {ms : List (String × Json)} {vs : Values ts}
    (h : Written fs ms vs) : ms.map Prod.fst = fs.names := by
  induction fs generalizing ms with
  | nil =>
    obtain rfl : ms = [] := h
    rfl
  | cons f rest ih =>
    obtain ⟨d, others, rfl, -, hothers⟩ := h
    rw [List.map_cons, ih hothers, Fields.names]

/-- Every field read. -/
def filled : {ts : List Type} → Values ts → Slots ts
  | [], _ => ()
  | _ :: _, (v, vs) => (some v, filled vs)

theorem complete_filled (fs : Fields Reader ts) (vs : Values ts) :
    fs.complete (filled vs) = .ok vs := by
  induction fs with
  | nil => rfl
  | cons f rest ih =>
    obtain ⟨v, vs⟩ := vs
    simp only [Fields.complete, filled, Option.orElse_some, ih]
    rfl

/-- A member is read into the slot of the field that it names. -/
def TakesTo (fs : Fields Reader ts) (m : String × Json) (slots slots' : Slots ts) : Prop :=
  ∃ read, fs.lookup m.1 slots = .takes read ∧ ReadsAs read m.2 slots'

/-- Members that are read into slots one after the other. -/
inductive Fills (fs : Fields Reader ts) : List (String × Json) → Slots ts → Slots ts → Prop
  | nil {slots : Slots ts} : Fills fs [] slots slots
  | cons {m : String × Json} {ms : List (String × Json)} {slots mid slots' : Slots ts} :
      TakesTo fs m slots mid → Fills fs ms mid slots' → Fills fs (m :: ms) slots slots'

section Cons

variable {t : Type} {f : Field Reader t} {fs : Fields Reader ts} {slots slots' : Slots ts}

/-- The first field takes the member of its name. -/
theorem takesTo_head {d : Json} {v : t} (h : ReadsAs f.read d v) :
    TakesTo (.cons f fs) (f.name, d) (none, slots) (some v, slots) := by
  have hanswers : f.answersTo f.name = true := by simp [Field.answersTo]
  refine ⟨_, ?_, h.map fun v => (some v, slots)⟩
  simp only [Fields.lookup, hanswers, if_true]
  rfl

/-- The other fields take their members past the first one. -/
theorem TakesTo.tail {m : String × Json} (hm : f.answersTo m.1 = false) (slot : Option t)
    (h : TakesTo fs m slots slots') : TakesTo (.cons f fs) m (slot, slots) (slot, slots') := by
  obtain ⟨read, hlookup, hread⟩ := h
  refine ⟨_, ?_, hread.map fun slots => (slot, slots)⟩
  simp only [Fields.lookup, hm, hlookup]
  rfl

theorem Fills.tail {ms : List (String × Json)} (hms : ∀ m ∈ ms, f.answersTo m.1 = false)
    (slot : Option t) (h : Fills fs ms slots slots') :
    Fills (.cons f fs) ms (slot, slots) (slot, slots') := by
  induction h with
  | nil => exact .nil
  | cons htakes _ ih =>
    have hhere := hms _ List.mem_cons_self
    exact .cons (htakes.tail hhere slot) (ih fun m hm => hms m (List.mem_cons_of_mem _ hm))

end Cons

/-- Members in the order of the fields fill all slots. -/
theorem Written.fills {fs : Fields Reader ts} (hfs : fs.Distinct) {ms : List (String × Json)}
    {vs : Values ts} (h : Written fs ms vs) : Fills fs ms fs.empty (filled vs) := by
  induction fs generalizing ms with
  | nil =>
    obtain rfl : ms = [] := h
    exact .nil
  | cons f rest ih =>
    obtain ⟨v, vs⟩ := vs
    obtain ⟨hone, hnot, hrest⟩ := hfs
    obtain ⟨d, others, rfl, hread, hothers⟩ := h
    refine .cons (takesTo_head hread) (.tail ?_ (some v) (ih hrest hothers))
    -- No later member has the name of the first field.
    intro m hm
    have hname : m.1 ≠ f.name := by
      rintro heq
      refine hnot ?_
      rw [← heq, ← hothers.names_eq]
      exact List.mem_map_of_mem hm
    simp [Field.answersTo, hone, hname]

/-- The members are read up to the closing bracket, each into its slot. -/
theorem readMembers_of_fills {fs : Fields Reader ts} {ms : List (String × Json)} {slots slots' : Slots ts}
    (h : Fills fs ms slots slots') {first : Bool} {cs rest : List Char}
    (hspells : Spells (.members first ms) cs rest) {fuel : List Char} (hfuel : ms.length < fuel.length) :
    readMembers fs fuel first slots cs = .ok (slots', '\x7d' :: rest) := by
  induction h generalizing first cs fuel with
  | nil =>
    cases fuel with
    | nil => cases hfuel
    | cons c fuel =>
      cases hspells with
      | noMember hgap =>
        rw [readMembers, bind_of_ok (nextKey_of_end first hgap)]
        rfl
  | cons htakes _ ih =>
    obtain ⟨read, hlookup, hread⟩ := htakes
    cases fuel with
    | nil => cases hfuel
    | cons c fuel =>
      cases hspells with
      | nextMember hahead hmember hothers =>
        cases hmember with
        | member hname hcolon hgap hvalue =>
          rw [readMembers, bind_of_ok (nextKey_of_ahead hahead hname)]
          simp only [hlookup]
          rw [bind_of_ok (colon_of_gap hcolon), bind_of_ok (hread _ _ _ hgap hvalue)]
          exact ih hothers (Nat.lt_of_succ_lt_succ hfuel)

/-- **A record is read as its values** from members written in the order of its fields. -/
theorem readsAs_readRecord (title : String) {fs : Fields Reader ts} (hfs : fs.Distinct)
    {ms : List (String × Json)} (vs : Values ts) (h : Written fs ms vs) :
    ReadsAs (readRecord title fs) (.object ms) vs := by
  intro cs start rest hgap hspells
  cases hspells with
  | @object _ inside _ hmembers =>
    have hread : readMembers fs inside true fs.empty inside = .ok (filled vs, '\x7d' :: rest) :=
      readMembers_of_fills (h.fills hfs) hmembers hmembers.fuel
    have hdrop : drop ('\x7b' :: inside) = .ok ((), inside) := rfl
    have hfuel : (get : Reader (List Char)) inside = .ok (inside, inside) := rfl
    unfold readRecord
    rw [bind_of_ok (token_of_gap hgap rfl), if_pos rfl, bind_of_ok hdrop, bind_of_ok hfuel,
      bind_of_ok hread]
    simp only [complete_filled]
    rfl

end Records

/-- A whole text of the document is read as the value. -/
theorem readAll_of_readsAs {α : Type} {read : Reader α} {text : List Char} {d : Json} {v : α}
    (h : ReadsAs read d v) (htext : IsTextOf text d) : readAll read text = .ok v := by
  obtain ⟨start, rest, hbefore, hspells, hafter⟩ := htext
  exact readAll_of_ok (h text start rest hbefore hspells) hafter

end Waterfall.Json
