import Mathlib.Data.Set.Card
import Waterfall.Registry

/-!
# Registries, key by key

A page keeps its views in a registry, under keys that come and go. This module follows a registry through
any run of steps and compares it with what each key has to itself: a slot, empty or with a view, which
only the steps at that key and the resizes of all views act on (`Step.onSlot`). What one step does is said
once, by `get?_stepped`; after a run the registry holds under each key what its slot holds
(`get?_run`), and steps at other keys can be left out.

A resize of all views visits them in some order. `resizeInTurn` visits them in any order that is asked
for, one view after the other, and it comes to the same registry and the same count.
-/

namespace Waterfall

namespace Registry

variable {κ υ : Type}

/-! ## Values and keys -/

/-- Two changes that agree on the entries give one registry. -/
theorem mapValues_congr {r : Registry κ υ} {f g : κ → υ → υ}
    (h : ∀ key value, (key, value) ∈ r.entries → f key value = g key value) :
    r.mapValues f = r.mapValues g := by
  apply Registry.ext
  apply List.map_congr_left
  rintro ⟨key, value⟩ hmem
  exact congrArg (Prod.mk key) (h key value hmem)

theorem mapValues_mapValues (r : Registry κ υ) (f g : κ → υ → υ) :
    (r.mapValues f).mapValues g = r.mapValues fun key value => g key (f key value) := by
  apply Registry.ext
  exact List.map_map

theorem mapValues_self (r : Registry κ υ) : (r.mapValues fun _ value => value) = r := by
  apply Registry.ext
  exact List.map_id _

variable [DecidableEq κ]

theorem get?_eq_some_iff {r : Registry κ υ} {key : κ} {value : υ} :
    r.get? key = some value ↔ (key, value) ∈ r.entries := by
  have hnodup := r.keys_nodup
  rw [get?]
  generalize r.entries = entries at *
  induction entries with
  | nil => simp
  | cons e rest ih =>
    obtain ⟨k, v⟩ := e
    obtain ⟨hk, hrest⟩ := List.nodup_cons.mp hnodup
    by_cases hkey : key = k
    · subst hkey
      have hnot : (key, value) ∉ rest := fun hmem => hk (List.mem_map.mpr ⟨_, hmem, rfl⟩)
      simp [hnot, eq_comm]
    · have hhead : (key == k) = false := beq_eq_false_iff_ne.mpr hkey
      simp [List.lookup_cons, hhead, hkey, ih hrest]

theorem mem_keys_iff {r : Registry κ υ} {key : κ} : key ∈ r.keys ↔ (r.get? key).isSome := by
  rw [Option.isSome_iff_exists]
  simp only [get?_eq_some_iff, keys, List.mem_map, Prod.exists, exists_and_right, exists_eq_right]

/-- The size counts the keys that have a value. -/
theorem encard_keys (r : Registry κ υ) : {key | (r.get? key).isSome}.encard = r.size := by
  have hkeys : {key | (r.get? key).isSome} = (r.keys.toFinset : Set κ) := by
    ext key
    rw [Finset.mem_coe, List.mem_toFinset, mem_keys_iff]
    rfl
  have hlength : r.keys.length = r.size := List.length_map _
  have hnodup : r.keys.Nodup := r.keys_nodup
  rw [hkeys, Set.encard_coe_eq_coe_finsetCard, List.toFinset_card_of_nodup hnodup, hlength]

/-! ## Steps -/

/-- What a page can do to its registry. -/
inductive Step (κ : Type) where
  | insert (key : κ) (view : TraceView)
  | get (key : κ)
  | getOrInsert (key : κ) (make : Unit → TraceView)
  | resize (key : κ) (containerWidth : Float32)
  | resizeAll (containerWidth : Float32)
  | evict (key : κ)
  | contains (key : κ)

/-- The registry after a step. -/
def stepped (r : Registry κ TraceView) : Step κ → Registry κ TraceView
  | .insert key view => (r.insert key view).2
  | .get _ => r
  | .getOrInsert key make => (r.getOrInsert key make).2
  | .resize key w => (r.resize key w).2
  | .resizeAll w => (r.resizeAll w).2
  | .evict key => (r.evict key).2
  | .contains _ => r

/-- The registry after some steps, one after the other. -/
def run (r : Registry κ TraceView) (steps : List (Step κ)) : Registry κ TraceView := steps.foldl stepped r

namespace Step

/-- The key that a step is addressed to, if it is not to all. -/
def key? : Step κ → Option κ
  | .insert key _ | .get key | .getOrInsert key _ | .resize key _ | .evict key | .contains key => some key
  | .resizeAll _ => none

/-- Whether a step is addressed to a key or to all. -/
def concerns (key : κ) (s : Step κ) : Bool := s.key?.all (key = ·)

/-- What a step does in a slot that it is addressed to. -/
def onSlot : Step κ → Option TraceView → Option TraceView
  | .insert _ view, _ => some view
  | .getOrInsert _ make, slot => some (slot.getD (make ()))
  | .resize _ w, slot | .resizeAll w, slot => slot.map fun v => (v.resize w).2
  | .evict _, _ => none
  | .get _, slot | .contains _, slot => slot

/-- Whether a step at a key leaves a view there that it stored, or none; other steps do neither. -/
def stores? (key : κ) : Step κ → Option Bool
  | .insert k _ | .getOrInsert k _ => if k = key then some true else none
  | .evict k => if k = key then some false else none
  | _ => none

end Step

/-- What the steps leave in the slot of a key when it is the only one. -/
def slot (key : κ) (steps : List (Step κ)) : Option TraceView :=
  (steps.filter (Step.concerns key)).foldl (fun slot s => s.onSlot slot) none

/-- Whether a key has been inserted and not evicted since. -/
def storedLast (key : κ) (steps : List (Step κ)) : Bool :=
  (steps.filterMap (Step.stores? key)).getLast?.getD false

theorem run_append (r : Registry κ TraceView) (before after : List (Step κ)) :
    r.run (before ++ after) = (r.run before).run after := by
  rw [run, List.foldl_append]
  rfl

theorem getOrInsert_of_some {r : Registry κ υ} {key : κ} {v : υ} (h : r.get? key = some v)
    (make : Unit → υ) : r.getOrInsert key make = (v, r) := by
  rw [getOrInsert, getOrInsertM_of_some h]
  rfl

theorem getOrInsert_of_none {r : Registry κ υ} {key : κ} (h : r.get? key = none) (make : Unit → υ) :
    r.getOrInsert key make = (make (), r.set key (make ())) := by
  rw [getOrInsert, getOrInsertM_of_none h]
  rfl

theorem get?_getOrInsert (r : Registry κ υ) (key other : κ) (make : Unit → υ) :
    (r.getOrInsert key make).2.get? other =
      if other = key then some ((r.get? key).getD (make ())) else r.get? other := by
  cases hfound : r.get? key with
  | some v =>
    rw [getOrInsert_of_some hfound]
    split_ifs with hkey
    · rw [hkey, hfound]
      rfl
    · rfl
  | none =>
    rw [getOrInsert_of_none hfound, get?_set]
    rfl

theorem get?_resize (r : Registry κ TraceView) (key other : κ) (containerWidth : Float32) :
    (r.resize key containerWidth).2.get? other =
      if other = key then (r.get? key).map fun v => (v.resize containerWidth).2 else r.get? other := by
  unfold resize
  cases hfound : r.get? key with
  | some v => exact get?_set ..
  | none =>
    split_ifs with hkey
    · rw [hkey, hfound]
      rfl
    · rfl

/-- A step acts on the slots that it is addressed to, and on no other. -/
theorem get?_stepped (r : Registry κ TraceView) (s : Step κ) (key : κ) :
    (r.stepped s).get? key = if s.concerns key then s.onSlot (r.get? key) else r.get? key := by
  have hat : ∀ (k : κ) (act : Option TraceView → Option TraceView),
      (if key = k then act (r.get? k) else r.get? key) =
        if (some k).all (key = ·) then act (r.get? key) else r.get? key := by
    intro k act
    simp only [Option.all_some, decide_eq_true_eq]
    split_ifs with hkey
    · rw [hkey]
    · rfl
  cases s with
  | insert k view => exact (get?_set ..).trans (hat k fun _ => some view)
  | get k => exact (ite_self _).symm
  | getOrInsert k make => exact (get?_getOrInsert ..).trans (hat k fun slot => some (slot.getD (make ())))
  | resize k w => exact (get?_resize ..).trans (hat k fun slot => slot.map fun v => (v.resize w).2)
  | resizeAll w => exact get?_mapValues ..
  | evict k => exact (get?_erase ..).trans (hat k fun _ => none)
  | contains k => exact (ite_self _).symm

/-! ## Runs -/

/-- After a run every key has what its slot holds. -/
theorem get?_run (r : Registry κ TraceView) (steps : List (Step κ)) (key : κ) :
    (r.run steps).get? key =
      (steps.filter (Step.concerns key)).foldl (fun slot s => s.onSlot slot) (r.get? key) := by
  induction steps generalizing r with
  | nil => rfl
  | cons s rest ih =>
    have hstep := ih (r.stepped s)
    rw [get?_stepped] at hstep
    rw [List.filter_cons]
    split_ifs at hstep ⊢ with hconcerns
    · exact hstep
    · exact hstep

theorem get?_run_empty (steps : List (Step κ)) (key : κ) :
    (({} : Registry κ TraceView).run steps).get? key = slot key steps := get?_run ..

/-- What is in a slot does not depend on the other steps. -/
theorem slot_filter_concerns (steps : List (Step κ)) (key : κ) :
    slot key (steps.filter (Step.concerns key)) = slot key steps := by
  simp only [slot, List.filter_filter, Bool.and_self]

theorem slot_concat (key : κ) (steps : List (Step κ)) (s : Step κ) :
    slot key (steps ++ [s]) =
      if s.concerns key then s.onSlot (slot key steps) else slot key steps := by
  rw [← get?_run_empty, ← get?_run_empty, run_append]
  exact get?_stepped ..

theorem isSome_onSlot (key : κ) (s : Step κ) (v : Option TraceView) :
    (if s.concerns key then s.onSlot v else v).isSome = (s.stores? key).getD v.isSome := by
  cases s with
  | insert k view | getOrInsert k make | evict k =>
    by_cases hkey : key = k <;> simp [Step.concerns, Step.key?, Step.onSlot, Step.stores?, hkey, eq_comm]
  | get k | contains k => simp [Step.onSlot, Step.stores?]
  | resize k w | resizeAll w =>
    simp only [Step.onSlot, Step.stores?, Option.getD_none]
    split_ifs <;> simp

/-- A slot is full when its key has been inserted and not evicted since. -/
theorem isSome_slot (key : κ) (steps : List (Step κ)) : (slot key steps).isSome = storedLast key steps := by
  induction steps using List.reverseRecOn with
  | nil => rfl
  | append_singleton steps s ih =>
    rw [slot_concat, isSome_onSlot, ih, storedLast, storedLast, List.filterMap_append, List.getLast?_append]
    cases hstores : s.stores? key <;> simp [hstores]

/-! ## Resizing in any order -/

/-- Resizes views one after the other, and counts those that took the width. -/
def resizeInTurn (containerWidth : Float32) :
    Registry κ TraceView → List κ → Nat × Registry κ TraceView
  | r, [] => (0, r)
  | r, key :: rest =>
    let (taken, r) := r.resize key containerWidth
    let (count, r) := resizeInTurn containerWidth r rest
    (if taken = some true then count + 1 else count, r)

/-- Whether there is a view that takes a width. -/
def takes (r : Registry κ TraceView) (containerWidth : Float32) (key : κ) : Bool :=
  (r.get? key).any fun v => (v.resize containerWidth).1

/-- The registry with the views under some keys resized. -/
def resizedAt (r : Registry κ TraceView) (containerWidth : Float32) (order : List κ) :
    Registry κ TraceView :=
  r.mapValues fun key v => if key ∈ order then (v.resize containerWidth).2 else v

theorem set_of_some {r : Registry κ υ} {key : κ} {v : υ} (h : r.get? key = some v) (value : υ) :
    r.set key value = r.mapValues fun k v => if k = key then value else v := by
  unfold set
  split
  · rfl
  · next hnone => cases h.symm.trans hnone

theorem resize_of_mem {r : Registry κ TraceView} {key : κ} (containerWidth : Float32) (hkey : key ∈ r.keys) :
    r.resize key containerWidth = (some (r.takes containerWidth key), r.resizedAt containerWidth [key]) := by
  obtain ⟨v, hv⟩ := Option.isSome_iff_exists.mp (mem_keys_iff.mp hkey)
  have hresized : r.set key (v.resize containerWidth).2 = r.resizedAt containerWidth [key] := by
    rw [set_of_some hv]
    apply mapValues_congr
    intro k v' hmem
    simp only [List.mem_singleton]
    split_ifs with hk
    · -- Under the key stands the view that was looked up.
      subst hk
      obtain rfl := Option.some.inj (hv.symm.trans (get?_eq_some_iff.mpr hmem))
      rfl
    · rfl
  simp only [resize, hv, takes, hresized, Option.any_some]

theorem keys_resizedAt (r : Registry κ TraceView) (containerWidth : Float32) (order : List κ) :
    (r.resizedAt containerWidth order).keys = r.keys := by
  simp only [keys, resizedAt, mapValues, List.map_map]
  rfl

/-- A resize at other keys does not change whether a view takes a width. -/
theorem takes_resizedAt_of_not_mem {r : Registry κ TraceView} {containerWidth : Float32} {order : List κ}
    {key : κ} (h : key ∉ order) :
    (r.resizedAt containerWidth order).takes containerWidth key = r.takes containerWidth key := by
  simp only [takes, resizedAt, get?_mapValues, if_neg h, Option.map_id']

/-- Resizing at a key and then at others is resizing at all of them. -/
theorem resizedAt_resizedAt {r : Registry κ TraceView} {containerWidth : Float32} {key : κ} {rest : List κ}
    (h : key ∉ rest) :
    (r.resizedAt containerWidth [key]).resizedAt containerWidth rest =
      r.resizedAt containerWidth (key :: rest) := by
  rw [resizedAt, resizedAt, mapValues_mapValues]
  apply mapValues_congr
  intro k v _
  by_cases hk : k = key
  · subst hk
    simp [h]
  · simp [hk]

theorem resizeInTurn_eq {r : Registry κ TraceView} (containerWidth : Float32) {order : List κ}
    (hnodup : order.Nodup) (hkeys : ∀ key ∈ order, key ∈ r.keys) :
    resizeInTurn containerWidth r order =
      (order.countP (r.takes containerWidth), r.resizedAt containerWidth order) := by
  induction order generalizing r with
  | nil => simp [resizeInTurn, resizedAt, mapValues_self]
  | cons key rest ih =>
    obtain ⟨hfresh, hrest⟩ := List.nodup_cons.mp hnodup
    obtain ⟨hkey, hkeysRest⟩ := List.forall_mem_cons.mp hkeys
    have htail := ih (r := r.resizedAt containerWidth [key]) hrest (by rwa [keys_resizedAt])
    -- No key comes twice, so what is visited later has not been resized yet.
    have hcount : rest.countP ((r.resizedAt containerWidth [key]).takes containerWidth) =
        rest.countP (r.takes containerWidth) := by
      apply List.countP_congr
      intro k hk
      have hother : k ∉ [key] := fun h => hfresh (List.mem_singleton.mp h ▸ hk)
      rw [takes_resizedAt_of_not_mem hother]
    simp only [resizeInTurn, resize_of_mem containerWidth hkey, htail, hcount, resizedAt_resizedAt hfresh,
      List.countP_cons, Option.some.injEq]
    split_ifs <;> rfl

/-- A resize of all views comes to the same count and the same registry in any order. -/
theorem resizeInTurn_eq_resizeAll {r : Registry κ TraceView} (containerWidth : Float32) {order : List κ}
    (horder : order.Perm r.keys) : resizeInTurn containerWidth r order = r.resizeAll containerWidth := by
  have hnodup : order.Nodup := horder.nodup_iff.mpr r.keys_nodup
  have hmem : ∀ key v, (key, v) ∈ r.entries → key ∈ order := by
    intro key v h
    exact horder.mem_iff.mpr (List.mem_map_of_mem (f := Prod.fst) h)
  have hcount : order.countP (r.takes containerWidth) =
      r.entries.countP fun e => (e.2.resize containerWidth).1 := by
    rw [horder.countP_eq, keys, List.countP_map]
    apply List.countP_congr
    rintro ⟨key, v⟩ hv
    simp only [Function.comp_apply, takes, get?_eq_some_iff.mpr hv, Option.any_some]
  have hall : r.resizedAt containerWidth order = r.mapValues fun _ v => (v.resize containerWidth).2 := by
    apply mapValues_congr
    intro key v hv
    rw [if_pos (hmem key v hv)]
  rw [resizeInTurn_eq containerWidth hnodup fun key => horder.mem_iff.mp, hcount, hall]
  rfl

/-! ## Main statement -/

/-- What a registry holds after some steps, told key by key. -/
structure HoldsSlots (r : Registry κ TraceView) (steps : List (Step κ)) : Prop where
  get?_eq : ∀ key, r.get? key = slot key steps
  contains_eq : ∀ key, r.contains key = storedLast key steps
  /-- The size counts the keys that have been inserted and not evicted since. -/
  size_eq : {key | storedLast key steps}.encard = r.size
  /-- What is given back is what was stored just before. -/
  insert_eq : ∀ key view, (r.insert key view).1 = slot key steps
  evict_eq : ∀ key, (r.evict key).1 = slot key steps
  resize_eq : ∀ key w, (r.resize key w).1 = (slot key steps).map fun v => (v.resize w).1
  /-- A view that is there stays there and is given back. -/
  found : ∀ key view, slot key steps = some view → ∀ make, r.getOrInsert key make = (view, r)
  /-- No other view is made then: nothing that making one would do is done. -/
  notMade : ∀ key view, slot key steps = some view →
    ∀ (m : Type → Type) [Monad m] (make : m TraceView), r.getOrInsertM key make = pure (view, r)
  /-- Steps at other keys change nothing. -/
  alone : ∀ key, r.get? key = (run {} (steps.filter (Step.concerns key))).get? key
  /-- In whatever order all views are resized, the same ones take the width. -/
  inAnyOrder : ∀ w order, order.Perm r.keys → resizeInTurn w r order = r.resizeAll w

/-- **Views under different keys do not affect each other.** After any run of steps a registry is a finite
map in which each key has what the steps at it, and the resizes of all views, leave there. -/
theorem holdsSlots_run (steps : List (Step κ)) : (run {} steps).HoldsSlots steps := by
  have hslot : ∀ key, (run {} steps).get? key = slot key steps := get?_run_empty steps
  have hstored : ∀ key, ((run {} steps).get? key).isSome = storedLast key steps := by
    intro key
    rw [hslot, isSome_slot]
  refine ⟨hslot, hstored, ?size, fun key _ => hslot key, hslot, ?resize, ?found, ?notMade, ?alone, ?order⟩
  case size =>
    rw [← encard_keys]
    simp only [hstored]
  case resize =>
    intro key w
    rw [← hslot, resize]
    cases (run {} steps).get? key <;> rfl
  case found => exact fun key view hview make => getOrInsert_of_some ((hslot key).trans hview) make
  case notMade => exact fun key view hview m _ make => getOrInsertM_of_some ((hslot key).trans hview) make
  case alone =>
    intro key
    rw [hslot, get?_run_empty, slot_filter_concerns]
  case order => exact fun w order horder => resizeInTurn_eq_resizeAll w horder

end Registry

end Waterfall
