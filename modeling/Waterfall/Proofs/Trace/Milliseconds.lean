import Mathlib.Data.List.TakeWhile
import Waterfall.Proofs.Number.Digits
import Waterfall.Trace.Scalar

/-!
# Scalars that tell a time

Times arrive as numbers or as text. A number always tells a time; a text does when blanks around an
optional sign and decimal digits are all it has and the number is in range (`Scalar.Tells`). This is said
of the characters of the text as they stand, without trimming.

The decimal text of a number in range tells the time that the number tells.
-/

namespace Waterfall

/-! ## Blanks around a text -/

theorem dropWhile_of_none {p : Char → Bool} {cs : List Char} (h : ∀ c ∈ cs, p c = false) :
    cs.dropWhile p = cs := by
  cases cs with
  | nil => rfl
  | cons c rest => rw [List.dropWhile_cons_of_neg (by simp [h c (by simp)])]

/-- Blanks on both sides are what trimming takes away. -/
theorem trimBlank_append {before cs after : List Char} (hbefore : ∀ c ∈ before, isBlank c = true)
    (hafter : ∀ c ∈ after, isBlank c = true) (hcs : ∀ c ∈ cs, isBlank c = false) :
    trimBlank (before ++ cs ++ after) = cs := by
  cases cs with
  | nil =>
    apply trimBlank_of_all
    intro c hc
    rcases List.mem_append.mp hc with hc | hc
    · exact hbefore c (by simpa using hc)
    · exact hafter c hc
  | cons c rest =>
    have hfront : (before ++ (c :: rest) ++ after).dropWhile isBlank = c :: rest ++ after := by
      rw [List.append_assoc, List.dropWhile_append_of_pos hbefore, List.cons_append,
        List.dropWhile_cons_of_neg (by simp [hcs c (by simp)])]
    have hback : (c :: rest ++ after).reverse.dropWhile isBlank = (c :: rest).reverse := by
      rw [List.reverse_append, List.dropWhile_append_of_pos (by simpa using hafter)]
      apply dropWhile_of_none
      intro d hd
      exact hcs d (List.mem_reverse.mp hd)
    rw [trimBlank, hfront, hback, List.reverse_reverse]

/-- Trimming takes away nothing but blanks. -/
theorem exists_blanks_around_trimBlank (cs : List Char) :
    ∃ before after, cs = before ++ trimBlank cs ++ after ∧
      (∀ c ∈ before, isBlank c = true) ∧ ∀ c ∈ after, isBlank c = true := by
  have htake : ∀ ds : List Char, ∀ c ∈ ds.takeWhile isBlank, isBlank c = true := by
    intro ds c hc
    exact List.mem_takeWhile_imp hc
  refine ⟨cs.takeWhile isBlank, ((cs.dropWhile isBlank).reverse.takeWhile isBlank).reverse, ?_,
    htake cs, ?_⟩
  · rw [trimBlank, List.append_assoc, ← List.reverse_append, List.takeWhile_append_dropWhile,
      List.reverse_reverse, List.takeWhile_append_dropWhile]
  · intro c hc
    exact htake _ c (by simpa using hc)

/-! ## Whole numbers in decimal -/

/-- The characters write a whole number: digits, with a sign before them or without. -/
inductive WritesWhole : List Char → Int → Prop
  | unsigned {ds : List Char} : AreDigits ds → WritesWhole ds (Digits.toNat ds)
  | plus {ds : List Char} : AreDigits ds → WritesWhole ('+' :: ds) (Digits.toNat ds)
  | minus {ds : List Char} : AreDigits ds → WritesWhole ('-' :: ds) (-(Digits.toNat ds))

theorem isBlank_of_isDigit {c : Char} (h : Digits.isDigit c = true) : isBlank c = false := by
  simp only [Digits.isDigit, Bool.and_eq_true, decide_eq_true_eq, Char.le_def,
    UInt32.le_iff_toNat_le] at h
  obtain ⟨hlow, hhigh⟩ : 48 ≤ c.toNat ∧ c.toNat ≤ 57 := h
  simp only [isBlank, Bool.or_eq_false_iff, Bool.and_eq_false_iff, decide_eq_false_iff_not,
    beq_eq_false_iff_ne]
  omega

/-- No blank stands in a number. -/
theorem WritesWhole.isBlank_eq_false {cs : List Char} {n : Int} (h : WritesWhole cs n) :
    ∀ c ∈ cs, isBlank c = false := by
  intro c hc
  cases h with
  | unsigned hds => exact isBlank_of_isDigit (hds.2 c hc)
  | plus hds =>
    rcases List.mem_cons.mp hc with rfl | hc
    · rfl
    · exact isBlank_of_isDigit (hds.2 c hc)
  | minus hds =>
    rcases List.mem_cons.mp hc with rfl | hc
    · rfl
    · exact isBlank_of_isDigit (hds.2 c hc)

/-- The decimal form of a number writes it. -/
theorem writesWhole_ofInt (n : Int) : WritesWhole (Digits.ofInt n) n := by
  unfold Digits.ofInt
  split
  · have h := WritesWhole.minus (areDigits_ofNat n.natAbs)
    rw [Digits.toNat_ofNat] at h
    have hn : -(n.natAbs : Int) = n := by omega
    rwa [hn] at h
  · have h := WritesWhole.unsigned (areDigits_ofNat n.natAbs)
    rw [Digits.toNat_ofNat] at h
    have hn : (n.natAbs : Int) = n := by omega
    rwa [hn] at h

/-! ## Scalars -/

namespace Scalar

/-- A number in range that digits stand for. -/
def inRange? (ds : List Char) (n : Int) : Option Int :=
  if ds.isEmpty || !ds.all Digits.isDigit then none else if Time.fits n then some n else none

theorem inRange?_eq_some_iff {ds : List Char} {m n : Int} :
    inRange? ds m = some n ↔ AreDigits ds ∧ m = n ∧ Time.fits n = true := by
  rw [areDigits_iff, inRange?]
  split_ifs with hds hfits
  · simp [hds]
  · constructor
    · intro h
      obtain rfl := Option.some.inj h
      exact ⟨by simpa using hds, rfl, hfits⟩
    · rintro ⟨-, rfl, -⟩
      rfl
  · simp only [false_iff]
    rintro ⟨-, rfl, hfits'⟩
    exact hfits hfits'

theorem millisOfDigits?_minus (ds : List Char) :
    millisOfDigits? ('-' :: ds) = inRange? ds (-(Digits.toNat ds)) := rfl

theorem millisOfDigits?_plus (ds : List Char) :
    millisOfDigits? ('+' :: ds) = inRange? ds (Digits.toNat ds) := rfl

theorem millisOfDigits?_unsigned {cs : List Char} (hminus : ∀ ds, cs ≠ '-' :: ds)
    (hplus : ∀ ds, cs ≠ '+' :: ds) : millisOfDigits? cs = inRange? cs (Digits.toNat cs) := by
  unfold millisOfDigits?
  split
  next negative ds hsign =>
    split at hsign
    · exact absurd rfl (hminus _)
    · exact absurd rfl (hplus _)
    · obtain ⟨rfl, rfl⟩ := Prod.mk.inj hsign
      rfl

theorem millisOfDigits?_eq_some_iff {cs : List Char} {n : Int} :
    millisOfDigits? cs = some n ↔ WritesWhole cs n ∧ Time.fits n = true := by
  constructor
  · intro h
    by_cases hminus : ∃ ds, cs = '-' :: ds
    · obtain ⟨ds, rfl⟩ := hminus
      rw [millisOfDigits?_minus, inRange?_eq_some_iff] at h
      obtain ⟨hds, rfl, hfits⟩ := h
      exact ⟨.minus hds, hfits⟩
    by_cases hplus : ∃ ds, cs = '+' :: ds
    · obtain ⟨ds, rfl⟩ := hplus
      rw [millisOfDigits?_plus, inRange?_eq_some_iff] at h
      obtain ⟨hds, rfl, hfits⟩ := h
      exact ⟨.plus hds, hfits⟩
    · rw [millisOfDigits?_unsigned (not_exists.mp hminus) (not_exists.mp hplus),
        inRange?_eq_some_iff] at h
      obtain ⟨hds, rfl, hfits⟩ := h
      exact ⟨.unsigned hds, hfits⟩
  · rintro ⟨hwrites, hfits⟩
    cases hwrites with
    | minus hds => exact inRange?_eq_some_iff.mpr ⟨hds, rfl, hfits⟩
    | plus hds => exact inRange?_eq_some_iff.mpr ⟨hds, rfl, hfits⟩
    | unsigned hds =>
      -- A digit is neither sign, so that the text is taken as a whole.
      rw [millisOfDigits?_unsigned]
      · exact inRange?_eq_some_iff.mpr ⟨hds, rfl, hfits⟩
      · rintro ds rfl
        exact absurd (hds.2 '-' (by simp)) (by decide)
      · rintro ds rfl
        exact absurd (hds.2 '+' (by simp)) (by decide)

/-- The scalar tells this time: a whole number itself, a real number rounded and kept in range, a text
the number in range that it writes between blanks. -/
inductive Tells : Scalar → Int → Prop
  | whole (n : Int) : Tells (.whole n) n
  | real (x : Float) :
      Tells (.real x) ((Binary.ofFloat x).roundHalfAway.clampToInt Time.least Time.most)
  | text {s : String} {before cs after : List Char} {n : Int} :
      s.toList = before ++ cs ++ after → (∀ c ∈ before, isBlank c = true) →
      (∀ c ∈ after, isBlank c = true) → WritesWhole cs n → Time.fits n = true → Tells (.text s) n

theorem toMillis?_eq_some_iff {x : Scalar} {n : Int} : x.toMillis? = some n ↔ x.Tells n := by
  constructor
  · intro h
    cases x with
    | whole m =>
      obtain rfl : m = n := Option.some.inj h
      exact .whole m
    | real x =>
      obtain rfl := Option.some.inj h
      exact .real x
    | flag b => simp [toMillis?] at h
    | text s =>
      obtain ⟨hwrites, hfits⟩ := millisOfDigits?_eq_some_iff.mp h
      obtain ⟨before, after, hs, hbefore, hafter⟩ := exists_blanks_around_trimBlank s.toList
      exact .text hs hbefore hafter hwrites hfits
  · intro h
    cases h with
    | whole _ => rfl
    | real _ => rfl
    | text hs hbefore hafter hwrites hfits =>
      rw [toMillis?, hs, trimBlank_append hbefore hafter hwrites.isBlank_eq_false]
      exact millisOfDigits?_eq_some_iff.mpr ⟨hwrites, hfits⟩

/-- A number in range and its decimal text tell the same time. -/
theorem toMillis?_decimal {n : Int} (h : Time.fits n = true) :
    (Scalar.text (decimal n)).toMillis? = (Scalar.whole n).toMillis? := by
  refine toMillis?_eq_some_iff.mpr (@Tells.text _ [] _ [] _ ?_ (by simp) (by simp)
    (writesWhole_ofInt n) h)
  simp [decimal]

end Scalar

end Waterfall
