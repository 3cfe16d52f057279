import Waterfall.View

/-!
# Registries

A registry keeps values under keys, at most one under each. The entries stand in the order in which
their keys came in, and a value that replaces another takes its place. A view registry holds the
views of a page.
-/

namespace Waterfall

@[ext]
structure Registry (κ υ : Type) where
  entries : List (κ × υ) := []
  /-- No key stands twice. -/
  keys_nodup : (entries.map Prod.fst).Nodup := by simp

namespace Registry

variable {κ υ : Type}

def keys (r : Registry κ υ) : List κ := r.entries.map Prod.fst

def size (r : Registry κ υ) : Nat := r.entries.length

def isEmpty (r : Registry κ υ) : Bool := r.entries.isEmpty

/-- The registry with all values changed. -/
def mapValues (f : κ → υ → υ) (r : Registry κ υ) : Registry κ υ where
  entries := r.entries.map fun (k, v) => (k, f k v)
  keys_nodup := by
    have : (fun p : κ × υ => (p.1, f p.1 p.2).1) = Prod.fst := rfl
    simpa [List.map_map, Function.comp_def] using r.keys_nodup

variable [DecidableEq κ]

def get? (r : Registry κ υ) (key : κ) : Option υ := r.entries.lookup key

def contains (r : Registry κ υ) (key : κ) : Bool := (r.get? key).isSome

/-- The registry without a key. -/
def erase (r : Registry κ υ) (key : κ) : Registry κ υ where
  entries := r.entries.filter (·.1 ≠ key)
  keys_nodup := (List.filter_sublist.map Prod.fst).nodup r.keys_nodup

/-- A key without a value is none of the keys. -/
theorem not_mem_keys_of_get?_eq_none {r : Registry κ υ} {key : κ} (h : r.get? key = none) :
    key ∉ r.keys := by
  simp only [get?, List.lookup_eq_none_iff] at h
  simp only [keys, List.mem_map, not_exists, not_and]
  intro p hp he
  have := h p hp
  simp [he] at this

/-- The registry with a new entry at its end, for a key that is not there. -/
def add (r : Registry κ υ) (key : κ) (value : υ) (h : r.get? key = none) : Registry κ υ where
  entries := r.entries ++ [(key, value)]
  keys_nodup := by
    have := not_mem_keys_of_get?_eq_none h
    simp only [keys] at this
    simp only [List.map_append, List.map_cons, List.map_nil]
    rw [List.nodup_append]
    refine ⟨r.keys_nodup, by simp, ?_⟩
    intro a ha b hb
    simp only [List.mem_singleton] at hb
    subst hb
    exact fun he => this (he ▸ ha)

/-- The registry with another value under a key. -/
def set (r : Registry κ υ) (key : κ) (value : υ) : Registry κ υ :=
  match h : r.get? key with
  | some _ => r.mapValues fun k v => if k = key then value else v
  | none => r.add key value h

/-- Stores a value, and gives back the one it replaces. -/
def insert (r : Registry κ υ) (key : κ) (value : υ) : Option υ × Registry κ υ :=
  (r.get? key, r.set key value)

/-- The value under a key, which is made and stored first if there is none. Making it may have effects of
any kind. -/
def getOrInsertM {m : Type → Type} [Monad m] (r : Registry κ υ) (key : κ) (make : m υ) :
    m (υ × Registry κ υ) :=
  match r.get? key with
  | some v => return (v, r)
  | none => do
    let v ← make
    return (v, r.set key v)

/-- The value under a key, which is computed and stored first if there is none. -/
def getOrInsert (r : Registry κ υ) (key : κ) (make : Unit → υ) : υ × Registry κ υ :=
  let made : ReaderM Unit υ := return make (← read)
  (r.getOrInsertM key made).run ()

/-- Takes a value out. -/
def evict (r : Registry κ υ) (key : κ) : Option υ × Registry κ υ :=
  (r.get? key, r.erase key)

/-- Looking a key up in a list of entries whose values have been changed. -/
theorem lookup_map_values (f : κ → υ → υ) (entries : List (κ × υ)) (key : κ) :
    (entries.map fun (k, v) => (k, f k v)).lookup key = (entries.lookup key).map (f key) := by
  induction entries with
  | nil => rfl
  | cons e rest ih =>
    obtain ⟨k, v⟩ := e
    simp only [List.map_cons, List.lookup_cons]
    by_cases h : key = k
    · subst h; simp
    · simp [beq_eq_false_iff_ne.2 h, ih]

@[simp]
theorem get?_mapValues (f : κ → υ → υ) (r : Registry κ υ) (key : κ) :
    (r.mapValues f).get? key = (r.get? key).map (f key) :=
  lookup_map_values f r.entries key

/-- A value that has been stored is found, and no other value changes. -/
theorem get?_set (r : Registry κ υ) (key other : κ) (value : υ) :
    (r.set key value).get? other = if other = key then some value else r.get? other := by
  unfold set
  split
  · next v h =>
    rw [get?_mapValues]
    by_cases he : other = key
    · subst he; simp [h]
    · simp [he]
  · next h =>
    simp only [get?, add, List.lookup_append] at h ⊢
    by_cases he : other = key
    · subst he; simp [h]
    · simp [he, List.lookup_cons, beq_eq_false_iff_ne.2 he]

/-- A value that has been taken out is gone, and no other value changes. -/
theorem get?_erase (r : Registry κ υ) (key other : κ) :
    (r.erase key).get? other = if other = key then none else r.get? other := by
  simp only [get?, erase]
  generalize r.entries = entries
  induction entries with
  | nil => simp
  | cons e rest ih =>
    obtain ⟨k, v⟩ := e
    by_cases hk : k = key
    · subst hk
      by_cases ho : other = k
      · subst ho; simpa using ih
      · simpa [ho, List.lookup_cons, beq_eq_false_iff_ne.2 ho] using ih
    · by_cases ho : other = k
      · subst ho; simp [hk]
      · simpa [hk, List.lookup_cons, beq_eq_false_iff_ne.2 ho] using ih

/-- A value that is there is given back, and nothing is made. -/
theorem getOrInsertM_of_some {m : Type → Type} [Monad m] {r : Registry κ υ} {key : κ} {v : υ}
    (h : r.get? key = some v) (make : m υ) : r.getOrInsertM key make = pure (v, r) := by
  simp only [getOrInsertM, h]

/-- A value that is not there is made once and stored. -/
theorem getOrInsertM_of_none {m : Type → Type} [Monad m] {r : Registry κ υ} {key : κ}
    (h : r.get? key = none) (make : m υ) :
    r.getOrInsertM key make = make >>= fun v => pure (v, r.set key v) := by
  simp only [getOrInsertM, h]

/-! ## Registries of views -/

/-- Resizes one view and says whether it took the width; without such a view there is nothing to
say. -/
def resize (r : Registry κ TraceView) (key : κ) (width : Float32) : Option Bool × Registry κ TraceView :=
  match r.get? key with
  | some v => (some (v.resize width).1, r.set key (v.resize width).2)
  | none => (none, r)

/-- Resizes all views and counts those that took the width. -/
def resizeAll (r : Registry κ TraceView) (width : Float32) : Nat × Registry κ TraceView :=
  (r.entries.countP fun (_, v) => (v.resize width).1, r.mapValues fun _ v => (v.resize width).2)

end Registry

/-- The views of a page. -/
abbrev ViewRegistry := Registry String TraceView

end Waterfall
