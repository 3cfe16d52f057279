import Mathlib.Data.List.Nodup
import Mathlib.Data.String.Basic
import Waterfall.Proofs.Decode.Agreement
import Waterfall.Proofs.Json.Spelling

/-!
# What arranging members keeps

Arranging the members of an object by name forgets their order, as long as the names are distinct
(`arrangedMembers_perm`), can be done before or after members are left out by name
(`filter_arrangedMembers`), leaves each value under its name (`member?_arrangedMembers`), and keeps
members with the same names apart or alike (`sameNames_arrangedMembers`).
-/

namespace Waterfall.Json

/-! ## One member after the other -/

theorem arrangedItems_eq_map (vs : List Json) : arrangedItems vs = vs.map arranged := by
  induction vs with
  | nil => rfl
  | cons v vs ih => rw [arrangedItems, ih, List.map_cons]

theorem arrangedMembers_eq_foldl (there ms : List (String × Json)) :
    arrangedMembers there ms = ms.foldl (fun there m => setMember m.1 m.2.arranged there) there := by
  induction ms generalizing there with
  | nil => rfl
  | cons m ms ih =>
    obtain ⟨name, v⟩ := m
    rw [arrangedMembers, ih, List.foldl_cons]

/-! ## Order -/

/-- Members with different names can be set in either order. -/
theorem setMember_comm {name name' : String} (hne : name ≠ name') (v v' : Json)
    (there : List (String × Json)) :
    setMember name v (setMember name' v' there) = setMember name' v' (setMember name v there) := by
  induction there with
  | nil => grind [setMember]
  | cons m rest ih => grind [setMember]

/-- **The order of members with distinct names does not matter.** -/
theorem arrangedMembers_perm {ms ns : List (String × Json)} (h : ms.Perm ns)
    (hnames : (ms.map Prod.fst).Nodup) (there : List (String × Json)) :
    arrangedMembers there ms = arrangedMembers there ns := by
  rw [arrangedMembers_eq_foldl, arrangedMembers_eq_foldl]
  refine h.foldl_eq' ?_ there
  intro m hm n hn there
  by_cases heq : m = n
  · rw [heq]
  · have hne : n.1 ≠ m.1 := fun h => heq (List.inj_on_of_nodup_map hnames hm hn h.symm)
    exact setMember_comm hne _ _ there

/-! ## Leaving members out -/

/-- Each name stands before the names after it. -/
def Sorted (members : List (String × Json)) : Prop := members.Pairwise fun m n => m.1 < n.1

theorem mem_names_of_mem_setMember {name : String} {v : Json} {there : List (String × Json)}
    {m : String × Json} (h : m ∈ setMember name v there) : m.1 = name ∨ m ∈ there := by
  induction there with
  | nil =>
    obtain rfl : m = (name, v) := by simpa [setMember] using h
    exact .inl rfl
  | cons first rest ih => grind [setMember]

theorem sorted_setMember (name : String) (v : Json) {there : List (String × Json)} (h : Sorted there) :
    Sorted (setMember name v there) := by
  induction there with
  | nil => exact List.pairwise_singleton _ _
  | cons first rest ih =>
    obtain ⟨key, w⟩ := first
    obtain ⟨hfirst, hrest⟩ := List.pairwise_cons.mp h
    simp only [setMember]
    split_ifs with hlt heq
    · refine List.pairwise_cons.mpr ⟨?_, h⟩
      intro m hm
      rcases List.mem_cons.mp hm with rfl | hm
      · exact hlt
      · exact lt_trans hlt (hfirst m hm)
    · subst heq
      exact List.pairwise_cons.mpr ⟨hfirst, hrest⟩
    · refine List.pairwise_cons.mpr ⟨?_, ih hrest⟩
      intro m hm
      rcases mem_names_of_mem_setMember hm with hname | hm
      · rw [hname]
        exact lt_of_le_of_ne (not_lt.mp hlt) (Ne.symm heq)
      · exact hfirst m hm

theorem setMember_of_lt {name : String} {there : List (String × Json)} (v : Json)
    (h : ∀ m ∈ there, name < m.1) : setMember name v there = (name, v) :: there := by
  cases there with
  | nil => rfl
  | cons first rest => rw [setMember, if_pos (h first (by simp))]

section Filter

variable {known : String → Bool} {name : String}

/-- Setting a member that is left out afterwards does nothing. -/
theorem filter_setMember_of_unknown (h : known name = false) (v : Json) (there : List (String × Json)) :
    (setMember name v there).filter (known ·.1) = there.filter (known ·.1) := by
  induction there with
  | nil => simp [setMember, h]
  | cons first rest ih =>
    obtain ⟨key, w⟩ := first
    simp only [setMember]
    split_ifs with hlt heq
    · rw [List.filter_cons_of_neg (by simp [h])]
    · subst heq
      rw [List.filter_cons_of_neg (by simp [h]), List.filter_cons_of_neg (by simp [h])]
    · rw [List.filter_cons, List.filter_cons, ih]

/-- Any other member is set among those that are left. -/
theorem filter_setMember_of_known (h : known name = true) (v : Json) {there : List (String × Json)}
    (hsorted : Sorted there) :
    (setMember name v there).filter (known ·.1) = setMember name v (there.filter (known ·.1)) := by
  induction there with
  | nil => simp [setMember, h]
  | cons first rest ih =>
    obtain ⟨key, w⟩ := first
    obtain ⟨hfirst, hrest⟩ := List.pairwise_cons.mp hsorted
    simp only [setMember]
    split_ifs with hlt heq
    · rw [List.filter_cons_of_pos (by simp [h]), setMember_of_lt]
      intro m hm
      rcases List.mem_cons.mp (List.mem_filter.mp hm).1 with rfl | hm
      · exact hlt
      · exact lt_trans hlt (hfirst m hm)
    · subst heq
      rw [List.filter_cons_of_pos (by simp [h]), List.filter_cons_of_pos (by simp [h]), setMember,
        if_neg (lt_irrefl _), if_pos rfl]
    · cases hkey : known key with
      | false =>
        rw [List.filter_cons_of_neg (by simp [hkey]), List.filter_cons_of_neg (by simp [hkey]), ih hrest]
      | true =>
        rw [List.filter_cons_of_pos (by simp [hkey]), List.filter_cons_of_pos (by simp [hkey]),
          ih hrest, setMember, if_neg hlt, if_neg heq]

end Filter

/-- **Members may be left out before they are arranged or after.** -/
theorem filter_arrangedMembers (known : String → Bool) {there : List (String × Json)}
    (hsorted : Sorted there) (ms : List (String × Json)) :
    (arrangedMembers there ms).filter (known ·.1) =
      arrangedMembers (there.filter (known ·.1)) (ms.filter (known ·.1)) := by
  induction ms generalizing there with
  | nil => rfl
  | cons m ms ih =>
    obtain ⟨name, v⟩ := m
    rw [arrangedMembers, ih (sorted_setMember name _ hsorted)]
    cases hname : known name with
    | false =>
      rw [List.filter_cons_of_neg (by simp [hname]), filter_setMember_of_unknown hname]
    | true =>
      rw [List.filter_cons_of_pos (by simp [hname]), arrangedMembers,
        filter_setMember_of_known hname _ hsorted]

/-- A member that is not left out is found as before. -/
theorem member?_filter {known : String → Bool} {key : String} (h : known key = true)
    (ms : List (String × Json)) : member? key (ms.filter (known ·.1)) = member? key ms := by
  induction ms with
  | nil => rfl
  | cons m ms ih =>
    obtain ⟨name, v⟩ := m
    by_cases hkey : key = name
    · subst hkey
      rw [List.filter_cons_of_pos (by simpa using h)]
      simp only [member?, List.lookup_cons, beq_self_eq_true]
    · have hne : (key == name) = false := beq_eq_false_iff_ne.mpr hkey
      simp only [member?, List.lookup_cons, hne, List.filter_cons] at ih ⊢
      split <;> simp [List.lookup_cons, hne, ih]

/-! ## Members by name -/

theorem member?_setMember_of_ne {name key : String} (h : name ≠ key) (v : Json)
    (there : List (String × Json)) : member? name (setMember key v there) = member? name there := by
  have hne : (name == key) = false := beq_eq_false_iff_ne.mpr h
  induction there with
  | nil => simp [setMember, member?, List.lookup_cons, hne]
  | cons m rest ih =>
    obtain ⟨k, w⟩ := m
    simp only [setMember]
    split_ifs with hlt heq
    · simp [member?, List.lookup_cons, hne]
    · subst heq
      simp [member?, List.lookup_cons, hne]
    · simp only [member?, List.lookup_cons] at ih ⊢
      rw [ih]

/-- **Of members with distinct names each is found under its own.** -/
theorem member?_arrangedMembers {ms : List (String × Json)} (hms : (ms.map Prod.fst).Nodup)
    (there : List (String × Json)) (name : String) :
    member? name (arrangedMembers there ms) = ((ms.lookup name).map arranged).or (member? name there) := by
  induction ms generalizing there with
  | nil => rfl
  | cons m ms ih =>
    obtain ⟨key, v⟩ := m
    obtain ⟨hkey, hrest⟩ := List.nodup_cons.mp hms
    rw [arrangedMembers, ih hrest]
    by_cases hname : name = key
    · subst hname
      have hnone : ms.lookup name = none := by
        rw [List.lookup_eq_none_iff]
        intro m hm
        have : m.1 ≠ name := fun heq => hkey (List.mem_map.mpr ⟨m, hm, heq⟩)
        simpa using this.symm
      rw [hnone, member?_setMember, List.lookup_cons_self]
      rfl
    · rw [member?_setMember_of_ne hname, List.lookup_cons, beq_eq_false_iff_ne.mpr hname]

/-! ## Members that correspond -/

section SameNames

variable {R : String → Json → Json → Prop} {there there' : List (String × Json)}

theorem sameNames_setMember {name : String} {v v' : Json} (h : SameNames R there there')
    (hv : R name v v') : SameNames R (setMember name v there) (setMember name v' there') := by
  induction h with
  | nil => exact .cons ⟨rfl, hv⟩ .nil
  | @cons m n rest rest' hmn hrest ih =>
    obtain ⟨key, w⟩ := m
    obtain ⟨key', w'⟩ := n
    obtain ⟨rfl, hw⟩ : key = key' ∧ R key w w' := hmn
    simp only [setMember]
    split_ifs with hlt heq
    · exact .cons ⟨rfl, hv⟩ (.cons ⟨rfl, hw⟩ hrest)
    · subst heq
      exact .cons ⟨rfl, hv⟩ hrest
    · exact .cons ⟨rfl, hw⟩ ih

/-- **Members that correspond are arranged alike.** -/
theorem sameNames_arrangedMembers {ms ns : List (String × Json)}
    (h : SameNames (fun name v w => R name v.arranged w.arranged) ms ns) (hthere : SameNames R there there') :
    SameNames R (arrangedMembers there ms) (arrangedMembers there' ns) := by
  induction h generalizing there there' with
  | nil => exact hthere
  | @cons m n ms ns hmn hrest ih =>
    obtain ⟨key, v⟩ := m
    obtain ⟨key', v'⟩ := n
    obtain ⟨rfl, hv⟩ : key = key' ∧ R key v.arranged v'.arranged := hmn
    exact ih (sameNames_setMember hthere hv)

/-- Under one name both values are there or neither is. -/
theorem sameNames_member? {ms ns : List (String × Json)} (h : SameNames R ms ns) (name : String) :
    Option.Rel (R name) (member? name ms) (member? name ns) := by
  induction h with
  | nil => exact .none
  | @cons m n ms ns hmn hrest ih =>
    obtain ⟨key, v⟩ := m
    obtain ⟨key', v'⟩ := n
    obtain ⟨rfl, hv⟩ : key = key' ∧ R key v v' := hmn
    simp only [member?, List.lookup_cons]
    by_cases hkey : name = key
    · subst hkey
      rw [beq_self_eq_true]
      exact .some hv
    · rw [beq_eq_false_iff_ne.mpr hkey]
      exact ih

end SameNames

end Waterfall.Json
