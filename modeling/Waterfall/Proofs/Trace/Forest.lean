import Mathlib.Data.List.Nodup
import Mathlib.Order.Bounds.Basic
import Waterfall.Trace.Structure

/-!
# Traces as forests

`validate` reads a list of spans row by row and stops at the first defect. This module says what it
accepts without looking at a single check: a list in which ids are distinct, times can be measured,
row zero is a root and every other parent stands in an earlier row (`IsForest`).

`validate_eq_ok_iff_isForest` is exact in both directions and holds for either policy. Rows of parents
go down along every ascent (`Ascent`), so an accepted list has no cycle: from each row the parents lead
to a root in fewer steps than there are rows.

The order in which defects are reported is not settled here.
-/

namespace Waterfall

/-! ## Rows, parents and ascents -/

/-- The row holds a span without a parent. -/
def RootRow (spans : List Span) (row : Nat) : Prop :=
  ∃ s, spans[row]? = some s ∧ s.parentId = none

/-- The span in the row `child` names the span in the row `parent` as its parent. -/
def ParentRow (spans : List Span) (child parent : Nat) : Prop :=
  ∃ s t, spans[child]? = some s ∧ spans[parent]? = some t ∧ s.parentId = some t.id

/-- `Ascent spans row steps top`: following parents from `row` for so many steps leads to `top`. -/
inductive Ascent (spans : List Span) : Nat → Nat → Nat → Prop
  | here (row : Nat) : Ascent spans row 0 row
  | up {row parent steps top : Nat} :
      ParentRow spans row parent → Ascent spans parent steps top →
      Ascent spans row (steps + 1) top

/-- The times at which some span starts. -/
def startTimes (spans : List Span) : Set Int := {t | ∃ s ∈ spans, s.startTime = t}

/-- What makes a list of spans a trace that can be laid out. -/
structure IsForest (spans : List Span) (policy : RootPolicy) : Prop where
  nonempty : spans ≠ []
  distinct : (spans.map (·.id)).Nodup
  ordered : ∀ s ∈ spans, s.startTime ≤ s.endTime
  measurable : ∀ origin, IsLeast (startTimes spans) origin → ∀ s ∈ spans,
    Time.fits (s.endTime - s.startTime) ∧ Time.fits (s.endTime - origin)
  root_first : RootRow spans 0
  parent_first : ∀ row s, 0 < row → spans[row]? = some s →
    s.parentId = none ∨ ∃ parent < row, ParentRow spans row parent
  one_root : policy = .reject → ∃! row, RootRow spans row

/-- The earliest start is the least of all starts. -/
theorem isLeast_earliest {spans : List Span} (h : spans ≠ []) :
    IsLeast (startTimes spans) (earliest spans) := by
  obtain ⟨origin, ho⟩ : ∃ origin, (spans.map (·.startTime)).min? = some origin := by
    cases hmin : (spans.map (·.startTime)).min? with
    | none => simp [List.min?_eq_none_iff, h] at hmin
    | some origin => exact ⟨origin, rfl⟩
  obtain ⟨hmem, hle⟩ := List.min?_eq_some_iff.mp ho
  have he : earliest spans = origin := by simp [earliest, ho]
  rw [he]
  refine ⟨by simpa [startTimes] using hmem, ?_⟩
  rintro t ⟨s, hs, rfl⟩
  exact hle _ (List.mem_map_of_mem hs)

/-! ## The first row of an id -/

theorem rowOf?_eq_some_iff {spans : List Span} {id : String} {row : Nat} :
    rowOf? spans id = some row ↔
      (∃ s, spans[row]? = some s ∧ s.id = id) ∧ ∀ r < row, ∀ t, spans[r]? = some t → t.id ≠ id := by
  rw [rowOf?, List.findIdx?_eq_some_iff_getElem]
  constructor
  · rintro ⟨hlt, hid, hbefore⟩
    refine ⟨⟨spans[row], List.getElem?_eq_getElem hlt, by simpa using hid⟩, ?_⟩
    intro r hr t ht
    obtain ⟨hrl, rfl⟩ := List.getElem?_eq_some_iff.mp ht
    simpa using hbefore r hr
  · rintro ⟨⟨s, hs, hid⟩, hbefore⟩
    obtain ⟨hlt, rfl⟩ := List.getElem?_eq_some_iff.mp hs
    refine ⟨hlt, by simpa using hid, ?_⟩
    intro r hr
    simpa using hbefore r hr _ (List.getElem?_eq_getElem (hr.trans hlt))

/-- An id that stands in a row has a first row, not after that one. -/
theorem exists_rowOf?_le {spans : List Span} {row : Nat} {s : Span} (hs : spans[row]? = some s) :
    ∃ first ≤ row, rowOf? spans s.id = some first := by
  cases h : rowOf? spans s.id with
  | none =>
    rw [rowOf?, List.findIdx?_eq_none_iff] at h
    simpa using h s (List.mem_of_getElem? hs)
  | some first =>
    refine ⟨first, ?_, rfl⟩
    by_contra hlt
    exact (rowOf?_eq_some_iff.mp h).2 row (by omega) s hs rfl

/-- Ids are distinct when each stands in its first row. -/
theorem nodup_ids_iff {spans : List Span} :
    (spans.map (·.id)).Nodup ↔
      ∀ row s, spans[row]? = some s → rowOf? spans s.id = some row := by
  constructor
  · intro hnodup row s hs
    refine rowOf?_eq_some_iff.mpr ⟨⟨s, hs, rfl⟩, ?_⟩
    intro r hr t ht hid
    have hlt : row < (spans.map (·.id)).length := by
      simpa using (List.getElem?_eq_some_iff.mp hs).1
    have heq : (spans.map (·.id))[r]? = (spans.map (·.id))[row]? := by simp [hs, ht, hid]
    exact List.nodup_iff_getElem?_ne_getElem?.mp hnodup r row hr hlt heq
  · intro hfirst
    refine List.nodup_iff_getElem?_ne_getElem?.mpr ?_
    intro i j hij hj heq
    simp only [List.length_map] at hj
    have hs := List.getElem?_eq_getElem hj
    have ht := List.getElem?_eq_getElem (hij.trans hj)
    have hid : spans[i].id = spans[j].id := by simpa [hs, ht] using heq
    exact (rowOf?_eq_some_iff.mp (hfirst j _ hs)).2 i hij _ ht hid

/-! ## The single checks -/

theorem rowDefect?_eq_none_iff {spans : List Span} {row : Nat} {s : Span}
    (hs : spans[row]? = some s) :
    rowDefect? spans row s = none ↔
      rowOf? spans s.id = some row ∧ s.startTime ≤ s.endTime ∧
        measurable (earliest spans) s = true := by
  obtain ⟨first, hle, hfirst⟩ := exists_rowOf?_le hs
  simp only [rowDefect?, hfirst, Option.getD_some, Option.some.injEq]
  split_ifs with hdup hneg hmeas
  · simp only [false_iff]
    omega
  · simp only [false_iff]
    omega
  · simp only [true_iff]
    exact ⟨by omega, by omega, hmeas⟩
  · simp [hmeas]

/-- A parent passes when some earlier row holds it: of rows with one id the first is looked up, and
that one is earlier still. -/
theorem parentDefect?_eq_none_iff {spans : List Span} {row : Nat} {s : Span}
    (hs : spans[row]? = some s) :
    parentDefect? spans row s = none ↔
      s.parentId = none ∨ ∃ parent < row, ParentRow spans row parent := by
  cases hp : s.parentId with
  | none => simp [parentDefect?, hp]
  | some p =>
    simp only [parentDefect?, hp, reduceCtorEq, false_or]
    constructor
    · intro hnone
      cases hrow : rowOf? spans p with
      | none => simp [hrow] at hnone
      | some parent =>
        simp only [hrow, ite_eq_right_iff, reduceCtorEq, imp_false] at hnone
        obtain ⟨⟨t, ht, htid⟩, -⟩ := rowOf?_eq_some_iff.mp hrow
        exact ⟨parent, by omega, s, t, hs, ht, by rw [hp, htid]⟩
    · rintro ⟨parent, hlt, s', t, hs', ht, hpt⟩
      obtain rfl : s' = s := by simpa [hs] using hs'.symm
      obtain rfl : p = t.id := by simpa [hp] using hpt
      obtain ⟨first, hle, hfirst⟩ := exists_rowOf?_le ht
      simp only [hfirst, ite_eq_right_iff, reduceCtorEq, imp_false]
      omega

/-- With a root in row zero, at most one root is exactly one. -/
theorem rootCount_le_one_iff {spans : List Span} (hroot : RootRow spans 0) :
    rootCount spans ≤ 1 ↔ ∃! row, RootRow spans row := by
  obtain ⟨first, hfirst, hnone⟩ := hroot
  cases spans with
  | nil => simp at hfirst
  | cons s rest =>
    obtain rfl : s = first := by simpa using hfirst
    have hcount : rootCount (s :: rest) = rest.countP Span.isRoot + 1 := by
      simp [rootCount, Span.isRoot, hnone]
    rw [hcount]
    constructor
    · intro hle
      refine ⟨0, ⟨s, rfl, hnone⟩, ?_⟩
      rintro row ⟨t, ht, htnone⟩
      cases row with
      | zero => rfl
      | succ row =>
        have hmem : t ∈ rest := List.mem_of_getElem? (by simpa using ht)
        have hpos : 0 < rest.countP Span.isRoot :=
          List.countP_pos_iff.mpr ⟨t, hmem, by simp [Span.isRoot, htnone]⟩
        omega
    · rintro ⟨row, -, huniq⟩
      by_contra hgt
      obtain ⟨t, hmem, ht⟩ := List.countP_pos_iff.mp (show 0 < rest.countP Span.isRoot by omega)
      obtain ⟨i, hi⟩ := List.getElem?_of_mem hmem
      have hsecond : RootRow (s :: rest) (i + 1) :=
        ⟨t, by simpa using hi, by simpa [Span.isRoot] using ht⟩
      have h₁ := huniq 0 ⟨s, rfl, hnone⟩
      have h₂ := huniq (i + 1) hsecond
      omega

/-! ## All checks together -/

theorem firstDefect?_zero_eq_none_iff {spans : List Span} {check : Nat → Span → Option Defect} :
    firstDefect? check 0 spans = none ↔
      ∀ row s, spans[row]? = some s → check row s = none := by
  rw [firstDefect?_eq_none_iff]
  constructor
  · intro h row s hs
    obtain ⟨hlt, rfl⟩ := List.getElem?_eq_some_iff.mp hs
    simpa using h row hlt
  · intro h row hlt
    simpa using h row spans[row] (List.getElem?_eq_getElem hlt)

/-- No defect is found exactly when none of the four kinds of checks finds one. -/
theorem defect?_eq_none_iff {spans : List Span} {policy : RootPolicy} :
    defect? spans policy = none ↔
      RootRow spans 0 ∧
      (∀ row s, spans[row]? = some s → rowDefect? spans row s = none) ∧
      (∀ row s, spans[row]? = some s → parentDefect? spans row s = none) ∧
      rootsDefect? spans policy = none := by
  cases spans with
  | nil => simp [defect?, RootRow]
  | cons first rest =>
    have hroot : rootDefect? (first :: rest) first = none ↔ RootRow (first :: rest) 0 := by
      simp [rootDefect?, RootRow]
    simp only [defect?, Option.orElse_eq_or, Option.or_eq_none_iff, firstDefect?_zero_eq_none_iff, hroot]
    tauto

theorem rootsDefect?_eq_none_iff {spans : List Span} {policy : RootPolicy} :
    rootsDefect? spans policy = none ↔ (policy = .reject → rootCount spans ≤ 1) := by
  simp only [rootsDefect?, ite_eq_right_iff, reduceCtorEq, imp_false]
  constructor
  · intro h hp
    by_contra hgt
    exact h ⟨by omega, hp⟩
  · rintro h ⟨hgt, hp⟩
    have := h hp
    omega

/-- The checks accept exactly the forests that list parents first. -/
theorem validate_eq_ok_iff_isForest {spans : List Span} {policy : RootPolicy} :
    validate spans policy = .ok () ↔ IsForest spans policy := by
  rw [validate_eq_ok_iff, defect?_eq_none_iff, rootsDefect?_eq_none_iff]
  constructor
  · rintro ⟨hroot, hrows, hparents, hroots⟩
    have hne : spans ≠ [] := by
      rintro rfl
      simp [RootRow] at hroot
    have hrow : ∀ row s, spans[row]? = some s → _ := fun row s hs =>
      (rowDefect?_eq_none_iff hs).mp (hrows row s hs)
    refine ⟨hne, nodup_ids_iff.mpr fun row s hs => (hrow row s hs).1, ?_, ?_, hroot, ?_, ?_⟩
    · intro s hs
      obtain ⟨row, hget⟩ := List.getElem?_of_mem hs
      exact (hrow row s hget).2.1
    · intro origin horigin s hs
      obtain ⟨row, hget⟩ := List.getElem?_of_mem hs
      obtain rfl := (isLeast_earliest hne).unique horigin
      simpa [Waterfall.measurable] using (hrow row s hget).2.2
    · intro row s _ hs
      exact (parentDefect?_eq_none_iff hs).mp (hparents row s hs)
    · intro hp
      exact (rootCount_le_one_iff hroot).mp (hroots hp)
  · intro h
    refine ⟨h.root_first, ?_, ?_, fun hp => (rootCount_le_one_iff h.root_first).mpr (h.one_root hp)⟩
    · intro row s hs
      have hmem := List.mem_of_getElem? hs
      refine (rowDefect?_eq_none_iff hs).mpr ⟨nodup_ids_iff.mp h.distinct row s hs, h.ordered s hmem, ?_⟩
      simpa [Waterfall.measurable] using h.measurable _ (isLeast_earliest h.nonempty) s hmem
    · intro row s hs
      rw [parentDefect?_eq_none_iff hs]
      rcases Nat.eq_zero_or_pos row with rfl | hpos
      · obtain ⟨first, hfirst, hnone⟩ := h.root_first
        obtain rfl : s = first := by simpa [hs] using hfirst
        exact Or.inl hnone
      · exact h.parent_first row s hpos hs

/-! ## Ascents in a forest -/

namespace IsForest

variable {spans : List Span} {policy : RootPolicy}

/-- The parent that a row names stands in an earlier row; row zero names none. -/
theorem exists_parent_lt (h : IsForest spans policy) {row : Nat} {s : Span}
    (hs : spans[row]? = some s) {p : String} (hp : s.parentId = some p) :
    ∃ parent < row, ∃ t, spans[parent]? = some t ∧ t.id = p := by
  rcases Nat.eq_zero_or_pos row with rfl | hpos
  · obtain ⟨first, hfirst, hnone⟩ := h.root_first
    obtain rfl : s = first := by simpa [hs] using hfirst
    simp [hnone] at hp
  · rcases h.parent_first row s hpos hs with hnone | ⟨parent, hlt, s', t, hs', ht, hid⟩
    · simp [hnone] at hp
    · obtain rfl : s' = s := by simpa [hs] using hs'.symm
      exact ⟨parent, hlt, t, ht, by simpa [hp] using hid.symm⟩

/-- Every parent that a span names is there. -/
theorem exists_parent (h : IsForest spans policy) {s : Span} (hs : s ∈ spans) {p : String}
    (hp : s.parentId = some p) : ∃ t ∈ spans, t.id = p := by
  obtain ⟨row, hrow⟩ := List.getElem?_of_mem hs
  obtain ⟨parent, -, t, ht, hid⟩ := h.exists_parent_lt hrow hp
  exact ⟨t, List.mem_of_getElem? ht, hid⟩

/-- Every parent stands in an earlier row: some earlier row holds its id, and no other row does. -/
theorem parent_lt (h : IsForest spans policy) {row parent : Nat} (hp : ParentRow spans row parent) :
    parent < row := by
  obtain ⟨s, t, hs, ht, hid⟩ := hp
  obtain ⟨earlier, hlt, t', ht', hid'⟩ := h.exists_parent_lt hs hid
  have h₁ := nodup_ids_iff.mp h.distinct parent t ht
  have h₂ := nodup_ids_iff.mp h.distinct earlier t' ht'
  rw [hid', h₁] at h₂
  obtain rfl : parent = earlier := by simpa using h₂
  exact hlt

/-- Each step of an ascent goes up by a row at least. -/
theorem steps_add_top_le (h : IsForest spans policy) {row steps top : Nat}
    (ha : Ascent spans row steps top) : steps + top ≤ row := by
  induction ha with
  | here row => omega
  | up hp _ ih =>
    have := h.parent_lt hp
    omega

/-- From every row the parents lead to a root. -/
theorem exists_ascent (h : IsForest spans policy) {row : Nat} (hrow : row < spans.length) :
    ∃ steps top, Ascent spans row steps top ∧ RootRow spans top := by
  -- On the row: the parent's row is smaller, and it is a row of the list again.
  induction row using Nat.strongRecOn with
  | ind row ih =>
    have hs := List.getElem?_eq_getElem hrow
    cases hp : spans[row].parentId with
    | none => exact ⟨0, row, .here row, _, hs, hp⟩
    | some p =>
      obtain ⟨parent, hlt, t, ht, rfl⟩ := h.exists_parent_lt hs hp
      obtain ⟨steps, top, ha, hroot⟩ := ih parent hlt (hlt.trans hrow)
      exact ⟨steps + 1, top, .up ⟨_, t, hs, ht, hp⟩ ha, hroot⟩

end IsForest

/-! ## What is accepted -/

/-- **The checks accept exactly the forests that list parents first.** In an accepted list the
parents lead from every row to a root, in fewer steps than there are rows and with no way to go on
for longer; so a list in which some row is its own ancestor is refused, however long the cycle. -/
theorem validate_accepts_exactly_forests (spans : List Span) (policy : RootPolicy) :
    (validate spans policy = .ok () ↔ IsForest spans policy) ∧
    (validate spans policy = .ok () → ∀ row < spans.length,
      (∃ steps top, steps < spans.length ∧ Ascent spans row steps top ∧ RootRow spans top) ∧
      ∀ steps top, Ascent spans row steps top → steps < spans.length) ∧
    ∀ row steps, Ascent spans row (steps + 1) row → ∃ d, validate spans policy = .error d := by
  refine ⟨validate_eq_ok_iff_isForest, ?_, ?_⟩
  · intro hok row hrow
    have h := validate_eq_ok_iff_isForest.mp hok
    have hbound : ∀ steps top, Ascent spans row steps top → steps < spans.length := by
      intro steps top ha
      have := h.steps_add_top_le ha
      omega
    obtain ⟨steps, top, ha, hroot⟩ := h.exists_ascent hrow
    exact ⟨⟨steps, top, hbound steps top ha, ha, hroot⟩, hbound⟩
  · intro row steps hcycle
    cases hv : validate spans policy with
    | error d => exact ⟨d, rfl⟩
    | ok =>
      have := (validate_eq_ok_iff_isForest.mp hv).steps_add_top_le hcycle
      omega

/-- Three calls, each inside the one before. -/
def nestedCalls : List Span := [
  { id := "a", parentId := none, startTime := -5, endTime := 9, label := "outer", actor := "x" },
  { id := "b", parentId := some "a", startTime := -1, endTime := 8, label := "middle", actor := "y" },
  { id := "c", parentId := some "b", startTime := 2, endTime := 7, label := "inner", actor := "x" }]

/-- A root and two calls that name each other as parents. -/
def mutualCalls : List Span := [
  { id := "a", parentId := none, startTime := 0, endTime := 9, label := "", actor := "x" },
  { id := "b", parentId := some "c", startTime := 1, endTime := 8, label := "", actor := "x" },
  { id := "c", parentId := some "b", startTime := 2, endTime := 7, label := "", actor := "x" }]

theorem validate_nestedCalls : validate nestedCalls .reject = .ok () := by
  rfl

theorem nestedCalls_accepted_mutualCalls_refused :
    validate nestedCalls .reject = .ok () ∧
    (∃ steps top, steps < 3 ∧ Ascent nestedCalls 2 steps top ∧ RootRow nestedCalls top) ∧
    Ascent mutualCalls 1 2 1 ∧ ∃ d, validate mutualCalls .disconnected = .error d := by
  have hnested := validate_accepts_exactly_forests nestedCalls .reject
  have hmutual := validate_accepts_exactly_forests mutualCalls .disconnected
  have hthere : ParentRow mutualCalls 1 2 := ⟨mutualCalls[1], mutualCalls[2], rfl, rfl, rfl⟩
  have hback : ParentRow mutualCalls 2 1 := ⟨mutualCalls[2], mutualCalls[1], rfl, rfl, rfl⟩
  have hcycle : Ascent mutualCalls 1 2 1 := .up hthere (.up hback (.here 1))
  exact ⟨validate_nestedCalls, (hnested.2.1 validate_nestedCalls 2 (by decide)).1, hcycle,
    hmutual.2.2 1 1 hcycle⟩

end Waterfall
