import Waterfall.Proofs.Json.Printing
import Waterfall.Proofs.Number.ShortestSingle

/-!
# Real numbers in a JSON text

Digits with a fraction, an exponent or both are read as a double, as long as the power of ten stays
moderate (`isReal_fraction`, `isReal_exponent`, `isReal_fraction_exponent`). Digits beyond the largest
significand are dropped on the way, so nothing is said about which double it is; that there is one rests
on the bounds for products of doubles.
-/

namespace Waterfall.Json

/-! ## Significands and powers -/

/-- A power of ten up to which no significand leaves the range of doubles. -/
def moderatePower : Nat := 200

theorem appendDigits_bounds {n : Nat} (hn : n ≤ mostSignificand) (ds : List Char) :
    (appendDigits n ds).1 ≤ mostSignificand ∧ (appendDigits n ds).2 ≤ ds.length := by
  induction ds generalizing n with
  | nil => exact ⟨hn, Nat.le_refl _⟩
  | cons d ds ih =>
    simp only [appendDigits]
    split_ifs with hlarge
    · exact ⟨hn, Nat.zero_le _⟩
    · obtain ⟨hmost, htaken⟩ := ih (Nat.not_lt.mp hlarge)
      exact ⟨hmost, Nat.succ_le_succ htaken⟩

theorem exists_fromParts_eq {significand : Nat} {power : Int} (hs : significand ≤ mostSignificand)
    (hp : power ≤ moderatePower) : ∃ x, fromParts significand power = some x := by
  have hp : power ≤ 200 := hp
  rcases Int.lt_or_le power 0 with hneg | hnonneg
  · exact ⟨_, by rw [fromParts, if_pos hneg]⟩
  · obtain ⟨p, rfl⟩ := Int.eq_ofNat_of_zero_le hnonneg
    have hsignificand : AtMost 12 (doubleOfInt significand).toModel.unpack := by
      have hlt : significand < 2 ^ (12 + 52) := hs.trans_lt (by decide)
      exact atMost_doubleOfInt hlt (by decide) (by decide)
    have hpower : AtMost (4 * p + 1 : Nat) (tenPower p).toModel.unpack := by
      have hlt : tenTo p < 2 ^ (4 * p + 1 + 52) :=
        calc 10 ^ p ≤ (2 ^ 4) ^ p := Nat.pow_le_pow_left (by decide) p
          _ = 2 ^ (4 * p) := (pow_mul 2 4 p).symm
          _ < 2 ^ (4 * p + 1 + 52) := Nat.pow_lt_pow_right (by decide) (by omega)
      rw [tenPower, if_pos hnonneg, Int.toNat_natCast]
      exact atMost_doubleOfInt hlt (by omega) (by omega)
    have hfinite := isInf_of_atMost (atMost_mul hsignificand hpower (by omega) (by omega))
    refine ⟨doubleOfInt significand * tenPower p, ?_⟩
    rw [fromParts, if_neg (by omega), if_neg (by omega)]
    simp only [hfinite, Bool.false_eq_true, if_false]

section Real

variable (negative : Bool) {significand : Nat} {power lead : Int}

theorem exists_scaled_eq (hs : significand ≤ mostSignificand) (hp : power ≤ moderatePower) :
    ∃ x, ∀ rest, scaled negative significand power rest = .ok (.double x, rest) := by
  obtain ⟨x, hx⟩ := exists_fromParts_eq hs hp
  refine ⟨signed negative x, fun rest => ?_⟩
  rw [scaled, hx]

/-! ## Fractions and exponents -/

/-- An exponent with its sign always written. -/
def exponentText (lead : Int) : List Char := (if lead < 0 then '-' else '+') :: Digits.ofNat lead.natAbs

theorem exists_withExponent_eq (hs : significand ≤ mostSignificand) (hp : power + lead ≤ moderatePower)
    (hlead : lead.natAbs ≤ mostExponent) :
    ∃ x, ∀ rest, EndsNumber rest →
      withExponent negative significand power (exponentText lead ++ rest) = .ok (.double x, rest) := by
  obtain ⟨x, hx⟩ := exists_scaled_eq negative hs hp
  refine ⟨x, fun rest hrest => ?_⟩
  have hspan := (areDigits_ofNat lead.natAbs).span_append hrest.endsDigits
  have hdigits : (Digits.ofNat lead.natAbs).isEmpty = false := by
    simpa using (areDigits_ofNat lead.natAbs).1
  have hsign : exponentSign (exponentText lead ++ rest) =
      (decide (lead < 0), Digits.ofNat lead.natAbs ++ rest) := by
    unfold exponentText
    split_ifs with hneg <;> simp [exponentSign, hneg]
  have hpower : (if decide (lead < 0) = true then power - (lead.natAbs : Int)
      else power + (lead.natAbs : Int)) = power + lead := by
    split_ifs with hneg
    · have := of_decide_eq_true hneg
      omega
    · have : ¬ lead < 0 := fun h => hneg (decide_eq_true h)
      omega
  simp only [withExponent, hsign, hspan, hdigits, Digits.toNat_ofNat, Bool.false_eq_true, if_false,
    if_neg (Nat.not_lt.mpr hlead), hpower, hx]

theorem exists_withFraction_eq (hs : significand ≤ mostSignificand) (hp : power ≤ moderatePower)
    {fs : List Char} (hfs : AreDigits fs) :
    ∃ x, ∀ rest, EndsNumber rest →
      withFraction negative significand power (fs ++ rest) = .ok (.double x, rest) := by
  obtain ⟨x, hx⟩ := exists_scaled_eq negative (appendDigits_bounds hs fs).1
    (show power - (appendDigits significand fs).2 ≤ moderatePower by omega)
  refine ⟨x, fun rest hrest => ?_⟩
  have hspan := hfs.span_append hrest.endsDigits
  have hdigits : fs.isEmpty = false := by simpa using hfs.1
  simp only [withFraction, hspan, hdigits, Bool.false_eq_true, if_false, exponent?_of_endsNumber hrest, hx]

theorem exists_withFraction_exponent_eq (hs : significand ≤ mostSignificand)
    (hp : power + lead ≤ moderatePower) (hlead : lead.natAbs ≤ mostExponent) {fs : List Char}
    (hfs : AreDigits fs) :
    ∃ x, ∀ rest, EndsNumber rest →
      withFraction negative significand power (fs ++ 'e' :: exponentText lead ++ rest) =
        .ok (.double x, rest) := by
  obtain ⟨x, hx⟩ := exists_withExponent_eq negative (appendDigits_bounds hs fs).1
    (show power - (appendDigits significand fs).2 + lead ≤ moderatePower by omega) hlead
  refine ⟨x, fun rest hrest => ?_⟩
  have hspan := hfs.span_append
    (endsDigits_cons (exponentText lead ++ rest) (show Digits.isDigit 'e' = false by decide))
  have hdigits : fs.isEmpty = false := by simpa using hfs.1
  simp only [List.append_assoc, List.cons_append, withFraction, hspan, hdigits, Bool.false_eq_true,
    if_false, exponent?, hx rest hrest]

/-! ## Whole texts of numbers -/

/-- The text of a number behind its sign: it starts with a digit and is read as a double up to what
follows. -/
structure IsReal (body : List Char) : Prop where
  starts : ∃ c tail, body = c :: tail ∧ Digits.isDigit c = true
  reads : ∃ x, ∀ rest, EndsNumber rest → numberAfterSign negative (body ++ rest) = .ok (.double x, rest)

theorem IsWhole.starts {ds : List Char} (h : IsWhole ds) (tail : List Char) :
    ∃ c rest, ds ++ tail = c :: rest ∧ Digits.isDigit c = true := by
  cases ds with
  | nil => exact absurd rfl h.1.1
  | cons c ds => exact ⟨c, ds ++ tail, rfl, h.1.2 c List.mem_cons_self⟩

variable {ds fs : List Char}

/-- It is enough to follow the reading from behind the whole digits. -/
theorem isReal_of_afterWhole (hds : IsWhole ds) {c : Char} {tail : List Char}
    (hc : Digits.isDigit c = false)
    (h : ∃ x, ∀ rest, EndsNumber rest →
      afterWhole negative ds (c :: (tail ++ rest)) = .ok (.double x, rest)) :
    IsReal negative (ds ++ c :: tail) := by
  obtain ⟨x, hx⟩ := h
  refine ⟨hds.starts _, x, fun rest hrest => ?_⟩
  rw [List.append_assoc, List.cons_append, numberAfterSign_append negative hds (endsDigits_cons _ hc)]
  exact hx rest hrest

theorem isReal_fraction (hds : IsWhole ds) (hfs : AreDigits fs) (hlength : ds.length ≤ moderatePower) :
    IsReal negative (ds ++ '.' :: fs) := by
  have hpower : ((ds.length - (appendDigits 0 ds).2 : Nat) : Int) ≤ moderatePower := by omega
  obtain ⟨x, hx⟩ := exists_withFraction_eq negative (appendDigits_bounds (Nat.zero_le _) ds).1 hpower hfs
  refine isReal_of_afterWhole negative hds (by decide) ⟨x, fun rest hrest => ?_⟩
  simp only [afterWhole, hx rest hrest]

theorem isReal_exponent (hds : IsWhole ds) (hpower : ds.length + lead ≤ moderatePower)
    (hlead : lead.natAbs ≤ mostExponent) : IsReal negative (ds ++ 'e' :: exponentText lead) := by
  have hdropped : ((ds.length - (appendDigits 0 ds).2 : Nat) : Int) + lead ≤ moderatePower := by omega
  obtain ⟨x, hx⟩ :=
    exists_withExponent_eq negative (appendDigits_bounds (Nat.zero_le _) ds).1 hdropped hlead
  refine isReal_of_afterWhole negative hds (by decide) ⟨x, fun rest hrest => ?_⟩
  simp only [afterWhole, exponent?, hx rest hrest]
  rfl

theorem isReal_fraction_exponent (hds : IsWhole ds) (hfs : AreDigits fs)
    (hpower : ds.length + lead ≤ moderatePower) (hlead : lead.natAbs ≤ mostExponent) :
    IsReal negative (ds ++ '.' :: (fs ++ 'e' :: exponentText lead)) := by
  have hdropped : ((ds.length - (appendDigits 0 ds).2 : Nat) : Int) + lead ≤ moderatePower := by omega
  obtain ⟨x, hx⟩ :=
    exists_withFraction_exponent_eq negative (appendDigits_bounds (Nat.zero_le _) ds).1 hdropped hlead hfs
  refine isReal_of_afterWhole negative hds (by decide) ⟨x, fun rest hrest => ?_⟩
  simp only [afterWhole, hx rest hrest]

/-! ## Decimals as they are written -/

theorem isWhole_take (h : IsWhole ds) {j : Nat} (hj : 0 < j) : IsWhole (ds.take j) := by
  obtain ⟨⟨hne, hdigits⟩, hzero⟩ := h
  obtain ⟨j, rfl⟩ : ∃ i, j = i + 1 := ⟨j - 1, by omega⟩
  cases ds with
  | nil => exact absurd rfl hne
  | cons c ds =>
    rw [List.take_succ_cons]
    refine ⟨⟨by simp, fun d hd => hdigits d ?_⟩, ?_⟩
    · exact List.take_subset (j + 1) (c :: ds) (by rwa [List.take_succ_cons])
    · intro tail htail
      obtain ⟨rfl, rfl⟩ := List.cons.inj htail
      rw [hzero ds rfl, List.take_nil]

theorem isReal_pointBefore (d : Nat) {places : Nat} (hplaces : 0 < places)
    (hlength : Digits.count d ≤ places + moderatePower) :
    IsReal negative (pointBefore (Digits.ofNat d) places) := by
  have hwhole := isWhole_ofNat d
  have hlong : (Digits.ofNat d).length ≤ places + moderatePower := hlength
  rw [pointBefore]
  generalize Digits.ofNat d = ds at *
  simp only [hplaces.ne', if_false]
  have hall : ∀ c ∈ List.replicate (places + 1 - ds.length) '0' ++ ds, Digits.isDigit c = true := by
    intro c hc
    rcases List.mem_append.mp hc with hc | hc
    · obtain rfl := List.eq_of_mem_replicate hc
      decide
    · exact hwhole.1.2 c hc
  have hfraction : AreDigits ((List.replicate (places + 1 - ds.length) '0' ++ ds).drop
      ((List.replicate (places + 1 - ds.length) '0' ++ ds).length - places)) := by
    refine ⟨?_, fun c hc => hall c (List.mem_of_mem_drop hc)⟩
    intro hnil
    have := congrArg List.length hnil
    simp only [List.length_drop, List.length_append, List.length_replicate, List.length_nil] at this
    omega
  refine isReal_fraction negative ?_ hfraction ?_
  · -- A decimal below one gets the zero before its point, any other has digits of its own there.
    rcases Nat.lt_or_ge places ds.length with hlt | hge
    · rw [show places + 1 - ds.length = 0 by omega, List.replicate_zero, List.nil_append]
      exact isWhole_take hwhole (by omega)
    · have hone : (List.replicate (places + 1 - ds.length) '0' ++ ds).length - places = 1 := by
        simp only [List.length_append, List.length_replicate]
        omega
      rw [hone, show places + 1 - ds.length = places - ds.length + 1 by omega, List.replicate_succ]
      exact ⟨⟨by simp, by simp; decide⟩, by simp⟩
  · simp only [List.length_take, List.length_append, List.length_replicate]
    have : 1 ≤ moderatePower := by decide
    omega

theorem isReal_positional (d : Nat) {exponent : Int} (hzero : d = 0 → exponent ≤ 0)
    (hlength : Digits.count d + exponent ≤ moderatePower) :
    IsReal negative (Shortest.positional .jsonSingle (Digits.ofNat d) exponent) := by
  unfold Shortest.positional
  split_ifs with hexponent hpoint
  · have htext : Digits.ofNat d ++ List.replicate exponent.toNat '0' =
        Digits.ofNat (d * tenTo exponent.toNat) := by
      by_cases hd : d = 0
      · rw [hd, show exponent.toNat = 0 by have := hzero hd; omega, Nat.zero_mul, List.replicate_zero,
          List.append_nil]
      · exact (Digits.ofNat_mul_tenTo hd _).symm
    have hlong : (Digits.ofNat (d * tenTo exponent.toNat)).length = Digits.count d + exponent.toNat := by
      rw [← htext, List.length_append, List.length_replicate, Digits.count]
    rw [htext]
    exact isReal_fraction negative (isWhole_ofNat _) ⟨by simp, by simp; decide⟩ (by omega)
  · exact absurd rfl hpoint
  · exact isReal_pointBefore negative d (by omega) (by omega)

theorem isReal_withExponent (d : Nat) (hlead : lead < moderatePower) (hleast : -moderatePower < lead) :
    IsReal negative (Shortest.withExponent (Digits.ofNat d) lead) := by
  have hpower : (1 : Int) + lead ≤ moderatePower := by omega
  have hexponent : lead.natAbs ≤ mostExponent := by
    have : moderatePower ≤ mostExponent := by decide
    omega
  have hdigits := (areDigits_ofNat d).2
  have hone : ∀ c, Digits.isDigit c = true → IsWhole [c] := by
    intro c hc
    exact ⟨⟨by simp, by simpa using hc⟩, fun tail htail => (List.cons.inj htail).2.symm⟩
  obtain ⟨c, ds, hds, -⟩ := exists_digit_ofNat d
  rw [hds] at hdigits ⊢
  have hwhole := hone c (hdigits c List.mem_cons_self)
  cases ds with
  | nil => exact isReal_exponent negative hwhole hpower hexponent
  | cons c' ds =>
    have hfraction : AreDigits (c' :: ds) :=
      ⟨by simp, fun x hx => hdigits x (List.mem_cons_of_mem c hx)⟩
    exact isReal_fraction_exponent negative hwhole hfraction hpower hexponent

theorem isReal_writeDecimal {d : Decimal} (h : Shortest.Moderate d) :
    IsReal negative (Shortest.writeDecimal .jsonSingle d) := by
  have hmoderate : moderatePower = 200 := rfl
  have hcount : 0 < Digits.count d.digits := List.length_pos_iff.mpr (areDigits_ofNat d.digits).1
  have hexponent := h.exponent
  have hlead := h.lead
  unfold Digits.count at hcount hlead
  simp only [Shortest.writeDecimal]
  split_ifs with hplace
  · exact isReal_positional negative d.digits (fun hd => (h.zero hd).le)
      (by unfold Digits.count; omega)
  · exact isReal_withExponent negative d.digits (by omega) (by omega)

/-- The text of a single behind its sign. -/
theorem isReal_single {m : Nat} {e : Int} (h : FitsSingle m e) :
    IsReal negative
      (if m = 0 then Shortest.positional .jsonSingle ['0'] 0
      else Shortest.writeDecimal .jsonSingle
        (Shortest.ofMantissa .single Shortest.Style.jsonSingle.tie m e)) := by
  split_ifs with hm
  · have hzero : AreDigits ['0'] := ⟨by simp, by simp; decide⟩
    exact isReal_fraction negative ⟨hzero, by simp⟩ hzero (by decide)
  · exact isReal_writeDecimal negative (Shortest.moderate_ofMantissa _ (Nat.pos_of_ne_zero hm) h)

end Real

/-- **A finite single is written as a number** that is read as some double, whatever follows. -/
theorem exists_spells_single {x : Float32} {s : Bool} {m : Nat} {e : Int}
    (hx : Binary.ofFloat32 x = .finite s m e) :
    ∃ y, ∀ rest, EndsNumber rest →
      Spells (.value (.number (.double y))) (numberText (.single x) ++ rest) rest := by
  obtain ⟨⟨c, tail, hstart, hc⟩, y, hy⟩ := isReal_single s (fitsSingle_ofFloat32 hx)
  refine ⟨y, fun rest hrest => ?_⟩
  have hread := hy rest hrest
  simp only [numberText, hx, realText, Shortest.text]
  cases s with
  | true => exact .negative hread
  | false =>
    simp only [Bool.false_eq_true, if_false]
    rw [hstart] at hread ⊢
    exact .number hc hread

end Waterfall.Json
