import Mathlib.Data.List.Induction
import Mathlib.Tactic.Tauto
import Waterfall.Proofs.Number.Digits

/-!
# Digits in order

Texts are compared character by character. Where two numbers are written with as many digits, their texts
compare as they do (`digits_lt_iff`), and so do the bytes of the texts, digits being bytes by themselves.
-/

namespace Waterfall

/-! ## Beginnings and images -/

section Order

variable {α β : Type} [LT α] [LT β]

/-- Of texts with beginnings of the same length, the beginnings are compared first. -/
theorem append_lt_append_iff [Std.Irrefl fun a b : α => a < b] {as bs : List α}
    (h : as.length = bs.length) (xs ys : List α) :
    as ++ xs < bs ++ ys ↔ as < bs ∨ as = bs ∧ xs < ys := by
  induction as generalizing bs with
  | nil =>
    obtain rfl := List.length_eq_zero_iff.mp h.symm
    simp
  | cons a as ih =>
    obtain ⟨b, bs, rfl⟩ := List.exists_cons_of_length_eq_add_one h.symm
    rw [List.cons_append, List.cons_append, List.cons_lt_cons_iff, List.cons_lt_cons_iff,
      ih (Nat.succ.inj h), List.cons.injEq]
    tauto

theorem map_lt_map_iff {f : α → β} {as bs : List α}
    (h : ∀ a ∈ as, ∀ b ∈ bs, (f a < f b ↔ a < b) ∧ (f a = f b ↔ a = b)) :
    as.map f < bs.map f ↔ as < bs := by
  induction as generalizing bs with
  | nil => cases bs <;> simp
  | cons a as ih =>
    cases bs with
    | nil => simp
    | cons b bs =>
      obtain ⟨hlt, heq⟩ := h a List.mem_cons_self b List.mem_cons_self
      have htail := ih fun a ha b hb => h a (List.mem_cons_of_mem _ ha) b (List.mem_cons_of_mem _ hb)
      rw [List.map_cons, List.map_cons, List.cons_lt_cons_iff, List.cons_lt_cons_iff, hlt, heq, htail]

end Order

/-! ## Bytes -/

/-- The bytes of a text. -/
def utf8 (s : String) : List UInt8 := s.toUTF8.data.toList

theorem utf8_ofList {cs : List Char} (h : ∀ c ∈ cs, c.utf8Size = 1) :
    utf8 (.ofList cs) = cs.map fun c => c.val.toUInt8 := by
  have hbytes : cs.flatMap String.utf8EncodeChar = cs.map fun c => c.val.toUInt8 := by
    induction cs with
    | nil => rfl
    | cons c cs ih =>
      rw [List.flatMap_cons, String.utf8EncodeChar_eq_singleton (h c List.mem_cons_self),
        ih fun c hc => h c (List.mem_cons_of_mem _ hc)]
      rfl
  rw [← hbytes, utf8]
  simp [List.utf8Encode]

/-- Texts of single bytes are in order as their bytes are. -/
theorem utf8_lt_utf8_iff {cs ds : List Char} (hcs : ∀ c ∈ cs, c.utf8Size = 1)
    (hds : ∀ d ∈ ds, d.utf8Size = 1) : utf8 (.ofList cs) < utf8 (.ofList ds) ↔ cs < ds := by
  rw [utf8_ofList hcs, utf8_ofList hds]
  refine map_lt_map_iff fun c hc d hd => ?_
  have hbyte : ∀ c : Char, c.utf8Size = 1 → c.val.toUInt8.toNat = c.toNat := fun c hc => by
    have hle : c.toNat ≤ 127 := Char.utf8Size_eq_one_iff.mp hc
    rw [UInt32.toNat_toUInt8]
    exact Nat.mod_eq_of_lt (Nat.lt_of_le_of_lt hle (by decide))
  rw [UInt8.lt_iff_toNat_lt, ← UInt8.toNat_inj, hbyte c (hcs c hc), hbyte d (hds d hd)]
  exact ⟨Iff.rfl, Char.toNat_inj⟩

/-! ## Numbers -/

theorem Digits.value?_of_isDigit {c : Char} (h : isDigit c = true) :
    (value? c).getD 0 = c.toNat - 48 ∧ 48 ≤ c.toNat ∧ c.toNat ≤ 57 := by
  simp only [isDigit, Bool.and_eq_true, decide_eq_true_eq] at h
  refine ⟨?_, h.1, h.2⟩
  rw [value?, if_pos h, Option.getD_some]

/-- Runs of as many digits are in order as their numbers are, and are the same if these are. -/
theorem digits_lt_iff {cs ds : List Char} (hcs : ∀ c ∈ cs, Digits.isDigit c = true)
    (hds : ∀ d ∈ ds, Digits.isDigit d = true) (h : cs.length = ds.length) :
    (cs < ds ↔ Digits.toNat cs < Digits.toNat ds) ∧ (cs = ds ↔ Digits.toNat cs = Digits.toNat ds) := by
  induction cs using List.reverseRecOn generalizing ds with
  | nil =>
    obtain rfl := List.length_eq_zero_iff.mp h.symm
    simp
  | append_singleton cs c ih =>
    rcases List.eq_nil_or_concat ds with rfl | ⟨ds, d, rfl⟩
    · simp at h
    · rw [List.concat_eq_append] at *
      have hlength : cs.length = ds.length := by simpa using h
      obtain ⟨hlt, heq⟩ := ih (fun c hc => hcs c (List.mem_append_left _ hc))
        (fun d hd => hds d (List.mem_append_left _ hd)) hlength
      obtain ⟨hvalue, hc, hc'⟩ := Digits.value?_of_isDigit (hcs c (by simp))
      obtain ⟨hvalue', hd, hd'⟩ := Digits.value?_of_isDigit (hds d (by simp))
      have hlast : [c] < [d] ↔ c.toNat < d.toNat := by
        have hchar : c < d ↔ c.toNat < d.toNat := Iff.rfl
        simp [List.cons_lt_cons_iff, hchar]
      have hsame : cs ++ [c] = ds ++ [d] ↔ cs = ds ∧ c.toNat = d.toNat := by
        rw [List.append_singleton_inj, Char.toNat_inj]
      rw [append_lt_append_iff hlength, hlast, hsame, hlt, heq, Digits.toNat_append_singleton,
        Digits.toNat_append_singleton, hvalue, hvalue']
      omega

end Waterfall
