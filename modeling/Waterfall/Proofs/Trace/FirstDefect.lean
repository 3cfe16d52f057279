import Waterfall.Proofs.Trace.FirstFailure
import Waterfall.Proofs.Trace.Forest

/-!
# The defect that is named

A list of spans can have many defects at once, and `validate` names one. Here is which: the defects of
single rows come before all defects of parents, the least row of a kind is the one that counts, and only
a list without any other defect has too many roots (`FirstDefect`). What makes a row defective is said
from the list alone: `RowDefect` asks for an earlier row with the same id and for the earliest start,
`ParentDefect` for the rows that hold the parent's id.

`defect?_eq_some_iff` is exact in both directions, so that a refused list has one first defect.
-/

namespace Waterfall

/-! ## Defects of one row -/

/-- No earlier row holds the id of the span. -/
def FreshId (spans : List Span) (row : Nat) (s : Span) : Prop :=
  ∀ earlier < row, ∀ t, spans[earlier]? = some t → t.id ≠ s.id

/-- What is wrong with the span in a row, whatever its parent: its id is that of an earlier row, or else
it ends before it starts, or else it cannot be measured from the earliest start. -/
inductive RowDefect (spans : List Span) (row : Nat) (s : Span) : Defect → Prop
  | duplicateId {first : Nat} {t : Span} :
      first < row → spans[first]? = some t → t.id = s.id → FreshId spans first t →
      RowDefect spans row s (.duplicateId s.id first row)
  | negativeDuration :
      FreshId spans row s → s.endTime < s.startTime →
      RowDefect spans row s (.negativeDuration s.id s.startTime s.endTime)
  | timeOutOfRange {origin : Int} :
      FreshId spans row s → s.startTime ≤ s.endTime → IsLeast (startTimes spans) origin →
      ¬ (Time.fits (s.endTime - s.startTime) ∧ Time.fits (s.endTime - origin)) →
      RowDefect spans row s (.timeOutOfRange s.id s.startTime s.endTime)

/-- Nothing is wrong with the row by itself. -/
def SoundRow (spans : List Span) (row : Nat) : Prop :=
  ∀ s d, spans[row]? = some s → ¬ RowDefect spans row s d

/-- What is wrong with the parent of the span in a row: no row holds it, or one row does and that row
is not an earlier one. -/
inductive ParentDefect (spans : List Span) (row : Nat) (s : Span) : Defect → Prop
  | danglingParent {parent : String} :
      s.parentId = some parent → parent ∉ spans.map (·.id) →
      ParentDefect spans row s (.danglingParent s.id parent)
  | parentAfterChild {parentRow : Nat} {t : Span} :
      s.parentId = some t.id → spans[parentRow]? = some t → row ≤ parentRow →
      (∀ other u, spans[other]? = some u → u.id = t.id → other = parentRow) →
      ParentDefect spans row s (.parentAfterChild s.id t.id row parentRow)

/-- Nothing is wrong with the parent of the row. -/
def SoundParent (spans : List Span) (row : Nat) : Prop :=
  ∀ s d, spans[row]? = some s → ¬ ParentDefect spans row s d

/-! ## The first of all defects -/

/-- The defect that comes before all others of the list. -/
inductive FirstDefect (spans : List Span) (policy : RootPolicy) : Defect → Prop
  | empty : spans = [] → FirstDefect spans policy .empty
  | inRow {row : Nat} {s : Span} {d : Defect} :
      spans[row]? = some s → RowDefect spans row s d → (∀ r < row, SoundRow spans r) →
      FirstDefect spans policy d
  | danglingFirst {s : Span} {parent : String} :
      (∀ row, SoundRow spans row) → spans[0]? = some s → s.parentId = some parent →
      parent ∉ spans.map (·.id) → FirstDefect spans policy (.danglingParent s.id parent)
  | missingRoot {s : Span} {parent : String} :
      (∀ row, SoundRow spans row) → spans[0]? = some s → s.parentId = some parent →
      parent ∈ spans.map (·.id) → FirstDefect spans policy (.missingRoot s.id)
  | inParent {row : Nat} {s : Span} {d : Defect} :
      (∀ row, SoundRow spans row) → RootRow spans 0 →
      spans[row]? = some s → ParentDefect spans row s d → (∀ r < row, SoundParent spans r) →
      FirstDefect spans policy d
  | multipleRoots :
      (∀ row, SoundRow spans row) → RootRow spans 0 → (∀ row, SoundParent spans row) →
      policy = .reject → 1 < (spans.map (·.parentId)).count none →
      FirstDefect spans policy (.multipleRoots ((spans.map (·.parentId)).count none))

/-! ## What the single checks find -/

theorem rowOf?_eq_none_iff {spans : List Span} {id : String} :
    rowOf? spans id = none ↔ id ∉ spans.map (·.id) := by
  rw [rowOf?, List.findIdx?_eq_none_iff]
  simp

/-- The row that is looked up for an id holds it and no row before it does. -/
theorem rowOf?_eq_some_iff_freshId {spans : List Span} {id : String} {row : Nat} :
    rowOf? spans id = some row ↔ ∃ s, spans[row]? = some s ∧ s.id = id ∧ FreshId spans row s := by
  rw [rowOf?_eq_some_iff]
  constructor
  · rintro ⟨⟨s, hs, rfl⟩, hbefore⟩
    exact ⟨s, hs, rfl, hbefore⟩
  · rintro ⟨s, hs, rfl, hfresh⟩
    exact ⟨⟨s, hs, rfl⟩, hfresh⟩

theorem freshId_iff {spans : List Span} {row : Nat} {s : Span} (hs : spans[row]? = some s) :
    FreshId spans row s ↔ rowOf? spans s.id = some row := by
  rw [rowOf?_eq_some_iff_freshId]
  constructor
  · intro hfresh
    exact ⟨s, hs, rfl, hfresh⟩
  · rintro ⟨t, ht, -, hfresh⟩
    obtain rfl : t = s := by simpa [hs] using ht.symm
    exact hfresh

theorem not_measurable_iff {spans : List Span} {s : Span} (hmem : s ∈ spans) :
    measurable (earliest spans) s = false ↔
      ∃ origin, IsLeast (startTimes spans) origin ∧
        ¬ (Time.fits (s.endTime - s.startTime) ∧ Time.fits (s.endTime - origin)) := by
  have hleast : IsLeast (startTimes spans) (earliest spans) :=
    isLeast_earliest (List.ne_nil_of_mem hmem)
  have hfalse : measurable (earliest spans) s = false ↔
      ¬ (Time.fits (s.endTime - s.startTime) ∧ Time.fits (s.endTime - earliest spans)) := by
    rw [measurable, ← Bool.and_eq_true, Bool.not_eq_true]
  rw [hfalse]
  constructor
  · intro hfar
    exact ⟨earliest spans, hleast, hfar⟩
  · rintro ⟨origin, horigin, hfar⟩
    rwa [hleast.unique horigin]

theorem rowDefect?_eq_some_iff {spans : List Span} {row : Nat} {s : Span} {d : Defect}
    (hs : spans[row]? = some s) : rowDefect? spans row s = some d ↔ RowDefect spans row s d := by
  have hmem := List.mem_of_getElem? hs
  obtain ⟨first, hle, hfirst⟩ := exists_rowOf?_le hs
  obtain ⟨t, ht, hid, hfresh⟩ := rowOf?_eq_some_iff_freshId.mp hfirst
  -- A row is fresh exactly if the look-up of its id comes back to it.
  have hrow : FreshId spans row s ↔ first = row := by
    rw [freshId_iff hs, hfirst, Option.some.injEq]
  simp only [rowDefect?, hfirst, Option.getD_some]
  constructor
  · intro h
    split_ifs at h with hdup hneg hmeas
    · obtain rfl := Option.some.inj h
      exact .duplicateId hdup ht hid hfresh
    · obtain rfl := Option.some.inj h
      exact .negativeDuration (hrow.mpr (by omega)) hneg
    · obtain rfl := Option.some.inj h
      obtain ⟨origin, horigin, hfar⟩ := (not_measurable_iff hmem).mp (by simpa using hmeas)
      exact .timeOutOfRange (hrow.mpr (by omega)) (by omega) horigin hfar
  · intro h
    cases h with
    | @duplicateId other u hlt hu hids hother =>
      have hlookup : rowOf? spans s.id = some other :=
        rowOf?_eq_some_iff_freshId.mpr ⟨u, hu, hids, hother⟩
      obtain rfl : first = other := by simpa [hfirst] using hlookup
      rw [if_pos hlt]
    | negativeDuration hnew hneg =>
      have : ¬ first < row := by have := hrow.mp hnew; omega
      rw [if_neg this, if_pos hneg]
    | @timeOutOfRange origin hnew hle' horigin hfar =>
      have hmeas : measurable (earliest spans) s = false :=
        (not_measurable_iff hmem).mpr ⟨origin, horigin, hfar⟩
      have : ¬ first < row := by have := hrow.mp hnew; omega
      have hneg : ¬ s.endTime < s.startTime := by omega
      rw [if_neg this, if_neg hneg, hmeas]
      rfl

theorem soundRow_iff {spans : List Span} {row : Nat} :
    SoundRow spans row ↔ ∀ s, spans[row]? = some s → rowDefect? spans row s = none := by
  constructor
  · intro h s hs
    rw [Option.eq_none_iff_forall_ne_some]
    intro d hd
    exact h s d hs ((rowDefect?_eq_some_iff hs).mp hd)
  · intro h s d hs hd
    have := (rowDefect?_eq_some_iff hs).mpr hd
    simp [h s hs] at this

/-- Without defects of rows, ids are distinct. -/
theorem nodup_ids_of_soundRows {spans : List Span} (h : ∀ row, SoundRow spans row) :
    (spans.map (·.id)).Nodup := by
  rw [nodup_ids_iff]
  intro row s hs
  exact ((rowDefect?_eq_none_iff hs).mp (soundRow_iff.mp (h row) s hs)).1

/-- Which parent is out of place needs distinct ids: otherwise an earlier row may hold it as well. -/
theorem parentDefect?_eq_some_iff {spans : List Span} {row : Nat} {s : Span} {d : Defect}
    (hnodup : (spans.map (·.id)).Nodup) :
    parentDefect? spans row s = some d ↔ ParentDefect spans row s d := by
  have hunique : ∀ {r other : Nat} {t u : Span}, spans[r]? = some t → spans[other]? = some u →
      u.id = t.id → other = r := by
    intro r other t u ht hu hid
    have hr := nodup_ids_iff.mp hnodup r t ht
    have hother := nodup_ids_iff.mp hnodup other u hu
    rw [hid, hr] at hother
    exact (Option.some.inj hother).symm
  constructor
  · intro h
    unfold parentDefect? at h
    split at h
    · simp at h
    · next parent hparent =>
      split at h
      · next hrow =>
        obtain rfl := Option.some.inj h
        exact .danglingParent hparent (rowOf?_eq_none_iff.mp hrow)
      · next parentRow hrow =>
        split_ifs at h with hle
        obtain rfl := Option.some.inj h
        obtain ⟨t, ht, rfl, -⟩ := rowOf?_eq_some_iff_freshId.mp hrow
        exact .parentAfterChild hparent ht hle fun _ _ hu hid => hunique ht hu hid
  · intro h
    cases h with
    | danglingParent hparent hmissing =>
      simp only [parentDefect?, hparent, rowOf?_eq_none_iff.mpr hmissing]
    | parentAfterChild hparent ht hle _ =>
      simp only [parentDefect?, hparent, nodup_ids_iff.mp hnodup _ _ ht, if_pos hle]

theorem soundParent_iff {spans : List Span} (hnodup : (spans.map (·.id)).Nodup) {row : Nat} :
    SoundParent spans row ↔ ∀ s, spans[row]? = some s → parentDefect? spans row s = none := by
  constructor
  · intro h s hs
    rw [Option.eq_none_iff_forall_ne_some]
    intro d hd
    exact h s d hs ((parentDefect?_eq_some_iff hnodup).mp hd)
  · intro h s d hs hd
    have := (parentDefect?_eq_some_iff hnodup).mpr hd
    simp [h s hs] at this

/-! ## The first row that a check objects to -/

theorem firstRowDefect_iff {spans : List Span} {d : Defect} :
    firstDefect? (rowDefect? spans) 0 spans = some d ↔
      ∃ row s, spans[row]? = some s ∧ RowDefect spans row s d ∧ ∀ r < row, SoundRow spans r := by
  simp only [firstDefect?_eq_some_iff, soundRow_iff]
  constructor
  · rintro ⟨row, s, hs, hd, hbefore⟩
    exact ⟨row, s, hs, (rowDefect?_eq_some_iff hs).mp hd, hbefore⟩
  · rintro ⟨row, s, hs, hd, hbefore⟩
    exact ⟨row, s, hs, (rowDefect?_eq_some_iff hs).mpr hd, hbefore⟩

theorem firstParentDefect_iff {spans : List Span} (hnodup : (spans.map (·.id)).Nodup) {d : Defect} :
    firstDefect? (parentDefect? spans) 0 spans = some d ↔
      ∃ row s, spans[row]? = some s ∧ ParentDefect spans row s d ∧
        ∀ r < row, SoundParent spans r := by
  simp only [firstDefect?_eq_some_iff, soundParent_iff hnodup, parentDefect?_eq_some_iff hnodup]

theorem rootCount_eq_count (spans : List Span) :
    rootCount spans = (spans.map (·.parentId)).count none := by
  rw [rootCount, List.count, List.countP_map]
  congr 1
  funext s
  cases h : s.parentId <;> simp [Span.isRoot, h]

/-! ## All checks in order -/

/-- The defect of the first row, if it has a parent. -/
theorem rootDefect?_eq_some_iff {spans : List Span} {first : Span} {d : Defect} :
    rootDefect? spans first = some d ↔ ∃ parent, first.parentId = some parent ∧
      ((parent ∉ spans.map (·.id) ∧ d = .danglingParent first.id parent) ∨
        (parent ∈ spans.map (·.id) ∧ d = .missingRoot first.id)) := by
  rw [rootDefect?, Option.map_eq_some_iff]
  apply exists_congr
  intro parent
  apply and_congr_right
  intro _
  cases hrow : rowOf? spans parent with
  | none =>
    have hmissing := rowOf?_eq_none_iff.mp hrow
    simp only [Option.isSome_none, Bool.false_eq_true, if_false, hmissing, not_false_eq_true,
      true_and, false_and, or_false]
    exact eq_comm
  | some row =>
    have hpresent : parent ∈ spans.map (·.id) := by
      by_contra habsent
      simp [rowOf?_eq_none_iff.mpr habsent] at hrow
    simp only [Option.isSome_some, if_true, hpresent, not_true_eq_false, false_and, true_and,
      false_or]
    exact eq_comm

theorem soundRows_iff {spans : List Span} :
    (∀ row, SoundRow spans row) ↔ firstDefect? (rowDefect? spans) 0 spans = none := by
  simp only [soundRow_iff, firstDefect?_zero_eq_none_iff]

theorem soundParents_iff {spans : List Span} (hnodup : (spans.map (·.id)).Nodup) :
    (∀ row, SoundParent spans row) ↔ firstDefect? (parentDefect? spans) 0 spans = none := by
  simp only [soundParent_iff hnodup, firstDefect?_zero_eq_none_iff]

theorem rootsDefect?_eq_some_iff {spans : List Span} {policy : RootPolicy} {d : Defect} :
    rootsDefect? spans policy = some d ↔
      policy = .reject ∧ 1 < (spans.map (·.parentId)).count none ∧
        d = .multipleRoots ((spans.map (·.parentId)).count none) := by
  rw [rootsDefect?, rootCount_eq_count]
  split_ifs with hmany
  · simp only [Option.some.injEq, hmany.1, hmany.2, true_and]
    exact eq_comm
  · simp only [false_iff]
    rintro ⟨hpolicy, hcount, -⟩
    exact hmany ⟨hcount, hpolicy⟩

/-- The checks find the first defect and nothing else. -/
theorem defect?_eq_some_iff {spans : List Span} {policy : RootPolicy} {d : Defect} :
    defect? spans policy = some d ↔ FirstDefect spans policy d := by
  cases spans with
  | nil =>
    constructor
    · intro h
      obtain rfl : Defect.empty = d := by simpa [defect?] using h
      exact .empty rfl
    · intro h
      cases h with
      | empty _ => rfl
      | inRow hs _ _ => simp at hs
      | danglingFirst _ hs _ _ => simp at hs
      | missingRoot _ hs _ _ => simp at hs
      | inParent _ _ hs _ _ => simp at hs
      | multipleRoots _ _ _ _ hcount => simp at hcount
  | cons first rest =>
    simp only [defect?, Option.orElse_eq_or, Option.or_eq_some_iff]
    have hroot : rootDefect? (first :: rest) first = none ↔ RootRow (first :: rest) 0 := by
      simp [rootDefect?, RootRow]
    constructor
    · rintro (hrow | ⟨hrows, hfirst | ⟨hnone, hparent | ⟨hparents, hroots⟩⟩⟩)
      · obtain ⟨row, s, hs, hd, hbefore⟩ := firstRowDefect_iff.mp hrow
        exact .inRow hs hd hbefore
      · have hsound := soundRows_iff.mpr hrows
        obtain ⟨parent, hp, ⟨hmissing, rfl⟩ | ⟨hpresent, rfl⟩⟩ := rootDefect?_eq_some_iff.mp hfirst
        · exact .danglingFirst hsound rfl hp hmissing
        · exact .missingRoot hsound rfl hp hpresent
      · have hsound := soundRows_iff.mpr hrows
        have hnodup := nodup_ids_of_soundRows hsound
        obtain ⟨row, s, hs, hd, hbefore⟩ := (firstParentDefect_iff hnodup).mp hparent
        exact .inParent hsound (hroot.mp hnone) hs hd hbefore
      · have hsound := soundRows_iff.mpr hrows
        have hnodup := nodup_ids_of_soundRows hsound
        obtain ⟨hpolicy, hcount, rfl⟩ := rootsDefect?_eq_some_iff.mp hroots
        exact .multipleRoots hsound (hroot.mp hnone) ((soundParents_iff hnodup).mpr hparents)
          hpolicy hcount
    · intro h
      cases h with
      | empty hnil => simp at hnil
      | inRow hs hd hbefore => exact Or.inl (firstRowDefect_iff.mpr ⟨_, _, hs, hd, hbefore⟩)
      | danglingFirst hsound hs hp hmissing =>
        obtain rfl : first = _ := by simpa using hs
        exact Or.inr ⟨soundRows_iff.mp hsound,
          Or.inl (rootDefect?_eq_some_iff.mpr ⟨_, hp, Or.inl ⟨hmissing, rfl⟩⟩)⟩
      | missingRoot hsound hs hp hpresent =>
        obtain rfl : first = _ := by simpa using hs
        exact Or.inr ⟨soundRows_iff.mp hsound,
          Or.inl (rootDefect?_eq_some_iff.mpr ⟨_, hp, Or.inr ⟨hpresent, rfl⟩⟩)⟩
      | inParent hsound hfirst hs hd hbefore =>
        have hnodup := nodup_ids_of_soundRows hsound
        exact Or.inr ⟨soundRows_iff.mp hsound, Or.inr ⟨hroot.mpr hfirst,
          Or.inl ((firstParentDefect_iff hnodup).mpr ⟨_, _, hs, hd, hbefore⟩)⟩⟩
      | multipleRoots hsound hfirst hparents hpolicy hcount =>
        have hnodup := nodup_ids_of_soundRows hsound
        exact Or.inr ⟨soundRows_iff.mp hsound, Or.inr ⟨hroot.mpr hfirst,
          Or.inr ⟨(soundParents_iff hnodup).mp hparents,
            rootsDefect?_eq_some_iff.mpr ⟨hpolicy, hcount, rfl⟩⟩⟩⟩

/-- A parent is called missing only if some span names it and no span has its id. -/
theorem exists_missing_of_danglingParent {spans : List Span} {policy : RootPolicy}
    {id parent : String} (h : validate spans policy = .error (.danglingParent id parent)) :
    ∃ s ∈ spans, s.parentId = some parent ∧ parent ∉ spans.map (·.id) := by
  have hfirst : FirstDefect spans policy (.danglingParent id parent) :=
    defect?_eq_some_iff.mp (validate_eq_error_iff.mp h)
  cases hfirst with
  | inRow _ hd _ => cases hd
  | danglingFirst _ hs hp hmissing => exact ⟨_, List.mem_of_getElem? hs, hp, hmissing⟩
  | inParent _ _ hs hd _ =>
    cases hd with
    | danglingParent hp hmissing => exact ⟨_, List.mem_of_getElem? hs, hp, hmissing⟩

/-! ## Main statement -/

/-- **The checks name the first defect.** A list is refused with a defect exactly if that defect comes
before all others: rows by themselves from the top, then a first row that has a parent, then the parents
from the top, then the number of roots. -/
theorem validate_names_first_defect (spans : List Span) (policy : RootPolicy) (d : Defect) :
    validate spans policy = .error d ↔ FirstDefect spans policy d := by
  rw [validate_eq_error_iff, defect?_eq_some_iff]

/-- A first row with an unknown parent, a row that ends before it starts, and the id of that row again:
the second of the three is named. -/
example : validate [
    { id := "a", parentId := some "x", startTime := 0, endTime := 1, label := "", actor := "" },
    { id := "b", parentId := none, startTime := 9, endTime := 2, label := "", actor := "" },
    { id := "b", parentId := none, startTime := 0, endTime := 1, label := "", actor := "" }] .reject =
    .error (.negativeDuration "b" 9 2) := by
  rfl

end Waterfall
