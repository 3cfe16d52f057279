import Mathlib.Data.List.TakeDrop
import Waterfall.Number.Decimal

/-!
# Runs of decimal digits

The decimal form of a natural number is a run of digits, and it starts with zero for zero alone. It is the
usual one, and no two whole numbers share theirs.
-/

namespace Waterfall

/-- One decimal digit or more. -/
def AreDigits (cs : List Char) : Prop := cs ≠ [] ∧ ∀ c ∈ cs, Digits.isDigit c = true

theorem areDigits_iff {ds : List Char} :
    AreDigits ds ↔ (ds.isEmpty || !ds.all Digits.isDigit) = false := by
  simp [AreDigits]

/-- A text that does not go on with a digit. -/
def EndsDigits (rest : List Char) : Prop :=
  ∀ c tail, rest = c :: tail → Digits.isDigit c = false

theorem endsDigits_nil : EndsDigits [] := by
  rintro _ _ ⟨⟩

theorem endsDigits_cons {c : Char} (rest : List Char) (h : Digits.isDigit c = false) :
    EndsDigits (c :: rest) := by
  intro d tail hd
  obtain ⟨rfl, -⟩ := List.cons.inj hd
  exact h

/-- Digits are told apart from what follows them. -/
theorem AreDigits.span_append {ds rest : List Char} (h : AreDigits ds) (hrest : EndsDigits rest) :
    (ds ++ rest).span Digits.isDigit = (ds, rest) := by
  have hnone : rest.takeWhile Digits.isDigit = [] ∧ rest.dropWhile Digits.isDigit = rest := by
    cases rest with
    | nil => exact ⟨rfl, rfl⟩
    | cons c tail => simp [hrest c tail rfl]
  rw [List.span_eq_takeWhile_dropWhile, List.takeWhile_append_of_pos h.2,
    List.dropWhile_append_of_pos h.2, hnone.1, hnone.2, List.append_nil]

theorem areDigits_ofNat (n : Nat) : AreDigits (Digits.ofNat n) := by
  have hchar : ∀ d, Digits.isDigit (Digits.char d) = true := by
    intro d
    have h : ∀ d : Fin 10, Digits.isDigit (Digits.char d.1) = true := by decide
    have hd := h ⟨d % 10, Nat.mod_lt _ (by decide)⟩
    simpa [Digits.char, Nat.mod_mod] using hd
  induction n using Nat.strongRecOn with
  | ind n ih =>
    unfold Digits.ofNat
    split
    · exact ⟨by simp, by simpa using hchar n⟩
    · obtain ⟨-, hall⟩ := ih (n / 10) (by omega)
      refine ⟨by simp, ?_⟩
      intro c hc
      rcases List.mem_append.mp hc with hc | hc
      · exact hall c hc
      · obtain rfl : c = Digits.char n := by simpa using hc
        exact hchar n

/-- No number but zero starts with the digit zero. -/
theorem exists_digit_ofNat (n : Nat) : ∃ c ds, Digits.ofNat n = c :: ds ∧ (c = '0' → n = 0) := by
  induction n using Nat.strongRecOn with
  | ind n ih =>
    unfold Digits.ofNat
    by_cases hn : n < 10
    · rw [if_pos hn]
      refine ⟨Digits.char n, [], rfl, ?_⟩
      have hzero : ∀ d : Fin 10, Digits.char d.1 = '0' → d.1 = 0 := by decide
      exact hzero ⟨n, hn⟩
    · rw [if_neg hn]
      obtain ⟨c, ds, hds, hc⟩ := ih (n / 10) (by omega)
      refine ⟨c, ds ++ [Digits.char n], by rw [hds]; rfl, ?_⟩
      intro h
      have := hc h
      omega

namespace Digits

/-! ## Numbers as they are usually written -/

theorem char_eq_digitChar (n : Nat) : char n = Nat.digitChar (n % 10) := by
  have h : ∀ d : Fin 10, char d.1 = Nat.digitChar d.1 := by decide
  have hd := h ⟨n % 10, Nat.mod_lt _ (by decide)⟩
  simpa [char, Nat.mod_mod] using hd

theorem ofNat_eq_toDigits (n : Nat) : ofNat n = Nat.toDigits 10 n := by
  induction n using Nat.strongRecOn with
  | ind n ih =>
    unfold ofNat
    split
    · next hn => rw [Nat.toDigits_of_lt_base hn, char_eq_digitChar, Nat.mod_eq_of_lt hn]
    · next hn =>
      have hsplit : 10 * (n / 10) + n % 10 = n := Nat.div_add_mod n 10
      rw [ih (n / 10) (by omega), char_eq_digitChar,
        ← Nat.toDigits_of_lt_base (show n % 10 < 10 by omega),
        Nat.toDigits_append_toDigits (by decide) (by omega) (by omega), hsplit]

theorem ofInt_eq_toString (n : Int) : String.ofList (ofInt n) = toString n := by
  cases n with
  | ofNat m =>
    rw [ofInt, if_neg (by simp), ofNat_eq_toDigits]
    exact Nat.repr_eq_ofList_toDigits.symm
  | negSucc m =>
    rw [ofInt, if_pos (Int.negSucc_lt_zero m), ofNat_eq_toDigits]
    change String.ofList (['-'] ++ Nat.toDigits 10 (m + 1)) = "-" ++ (m + 1).repr
    rw [String.ofList_append, Nat.repr_eq_ofList_toDigits]

/-- Numbers with the same decimal form are the same. -/
theorem ofInt_injective : Function.Injective ofInt := by
  have hminus : ∀ n ds, ofNat n ≠ '-' :: ds := by
    intro n ds h
    have hdigit := (areDigits_ofNat n).2 '-' (by rw [h]; exact List.mem_cons_self)
    exact absurd hdigit (by decide)
  intro m n h
  unfold ofInt at h
  split at h <;> split at h
  · have := congrArg toNat (List.cons.inj h).2
    rw [toNat_ofNat, toNat_ofNat] at this
    omega
  · exact absurd h.symm (hminus _ _)
  · exact absurd h (hminus _ _)
  · have := congrArg toNat h
    rw [toNat_ofNat, toNat_ofNat] at this
    omega

end Digits

end Waterfall
