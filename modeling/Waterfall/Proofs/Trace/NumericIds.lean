import Waterfall.Proofs.Number.LargeWhole
import Waterfall.Proofs.Number.ShortestWhole
import Waterfall.Proofs.Trace.NormalForm
import Waterfall.Proofs.Trace.Places

/-!
# Ids that are numbers

A span may be identified by a whole number of 64 bits. Below `2^63` the number is kept and its id is its
decimal text. From there on it becomes a double, and the id is the text of that double: numbers that round
to one multiple of 2048 have one id (`toText_ofWhole_eq_iff`).

No other ids are shared. The shortest text of a double is a number that rounds to it, so different doubles
have different texts, and none of them is the text of a number below `2^63`.
-/

namespace Waterfall

/-! ## Whole numbers as texts -/

theorem decimal_natCast (n : Nat) : decimal n = .ofList (Digits.ofNat n) := by
  have hsign : ¬ (n : Int) < 0 := by omega
  simp [decimal, Digits.ofInt, hsign]

theorem ofNat_injective {m n : Nat} (h : Digits.ofNat m = Digits.ofNat n) : m = n := by
  rw [← Digits.toNat_ofNat m, h, Digits.toNat_ofNat]

namespace Shortest

/-- The text of so many times 2048 is that of a whole number which rounds to it; from `2^64` on nothing
else is there to round to. -/
theorem exists_text_timesUnit {q : Nat} (hq : 2 ^ 52 ≤ q ∧ q ≤ 2 ^ 53) :
    ∃ w, text .plain .double (.finite false (timesUnit q).1 (timesUnit q).2) = Digits.ofNat w ∧
      2 ^ 63 ≤ w ∧ min (roundDiv w 2048 .toEven) (2 ^ 53) = q := by
  rcases eq_or_ne q (2 ^ 52) with rfl | hlow
  · -- The lower half of the interval is narrower here and reaches below `2^63`.
    exact ⟨9223372036854776000, by decide +kernel, by decide, by decide⟩
  rcases eq_or_ne q (2 ^ 53) with rfl | hhigh
  · exact ⟨18446744073709552000, by decide +kernel, by decide, by decide⟩
  have hunit : timesUnit q = (q, 11) := if_neg hhigh
  have hinterval : interval .double q 11 = (4 * q, 4 * q - 2, 4 * q + 2) := by
    have hnarrow : ¬ (q = twoTo (Precision.double.bits - 1) ∧ Precision.double.leastExponent < 11) :=
      fun h => hlow h.1
    simp only [interval, if_neg hnarrow]
  have hpow : twoTo (11 : Int).toNat = 2048 := rfl
  have hunits : twoTo ((11 : Int) - 2).toNat = 512 := rfl
  have hleast : tenTo 3 ≤ q * twoTo (11 : Int).toNat := by
    rw [hpow, show tenTo 3 = 1000 from rfl]
    omega
  have hmost : q * twoTo (11 : Int).toNat < tenTo (3 + 18) := by
    rw [hpow, show tenTo (3 + 18) = 1000000000000000000000 from rfl]
    omega
  obtain ⟨w, htext, hwithin⟩ := exists_text_eq_ofNat (show 0 < q by omega) (show 2 ≤ (11 : Int) by decide)
    (by decide) hleast hmost
  rw [hinterval, hunits] at hwithin
  obtain ⟨habove, hbelow⟩ : Within (q % 2 = 0) ((4 * q - 2) * 512) ((4 * q + 2) * 512) w := hwithin
  rw [reaches_decide_iff] at habove hbelow
  have hround : roundDiv w 2048 .toEven = q := by
    simp only [roundDiv]
    by_cases heven : q % 2 = 0
    · rw [if_pos heven] at habove hbelow
      split_ifs <;> omega
    · rw [if_neg heven] at habove hbelow
      split_ifs <;> omega
  have hlarge : 2 ^ 63 ≤ w := by
    by_cases heven : q % 2 = 0
    · rw [if_pos heven] at habove
      omega
    · rw [if_neg heven] at habove
      omega
  exact ⟨w, by rw [hunit]; exact htext, hlarge, by rw [hround]; omega⟩

end Shortest

/-! ## Texts of numbers -/

namespace Scalar

/-- A whole number as it is kept. -/
def ofWhole (n : Nat) : Scalar := if (n : Int) ≤ Time.most then .whole n else .real (doubleOfInt n)

theorem ofJson_number (n : Nat) : ofJson (.number (.whole n)) = .ok (ofWhole n) := rfl

theorem toText_ofWhole_of_lt {n : Nat} (h : n < 2 ^ 63) : (ofWhole n).toText = decimal n := by
  have hfits : (n : Int) ≤ Time.most := by
    rw [Time.most]
    omega
  rw [ofWhole, if_pos hfits, toText]

theorem toText_ofWhole_of_le {n : Nat} (h : 2 ^ 63 ≤ n) :
    (ofWhole n).toText = textOfDouble (doubleOfInt n) := by
  have hlarge : ¬ (n : Int) ≤ Time.most := by
    rw [Time.most]
    omega
  rw [ofWhole, if_neg hlarge, toText]

/-- The text of a large number is that of a large number which rounds to the same multiple of 2048. -/
theorem exists_toText_ofWhole {n : Nat} (h : 2 ^ 63 ≤ n) (hlt : n < 2 ^ 64) :
    ∃ w : Nat, (ofWhole n).toText = decimal w ∧ 2 ^ 63 ≤ w ∧
      min (roundDiv w 2048 .toEven) (2 ^ 53) = roundDiv n 2048 .toEven := by
  obtain ⟨w, htext, hlarge, hround⟩ := Shortest.exists_text_timesUnit (roundDiv_bounds h hlt)
  refine ⟨w, ?_, hlarge, hround⟩
  rw [toText_ofWhole_of_le h, textOfDouble, ofFloat_doubleOfInt_large h hlt, htext, decimal_natCast]

/-- **Whole numbers with one text**: a number and itself, or large ones that round to one multiple of
2048. -/
theorem toText_ofWhole_eq_iff {m n : Nat} (hm : m < 2 ^ 64) (hn : n < 2 ^ 64) :
    (ofWhole m).toText = (ofWhole n).toText ↔
      m = n ∨ 2 ^ 63 ≤ m ∧ 2 ^ 63 ≤ n ∧ roundDiv m 2048 .toEven = roundDiv n 2048 .toEven := by
  have hdecimal : ∀ {x y : Nat}, decimal x = decimal y → x = y := by
    intro x y hxy
    rw [decimal_natCast, decimal_natCast] at hxy
    exact ofNat_injective (String.ofList_injective hxy)
  constructor
  · intro h
    rcases Nat.lt_or_ge m (2 ^ 63) with hsmall | hlarge
    · rw [toText_ofWhole_of_lt hsmall] at h
      rcases Nat.lt_or_ge n (2 ^ 63) with hsmall' | hlarge'
      · rw [toText_ofWhole_of_lt hsmall'] at h
        exact .inl (hdecimal h)
      · obtain ⟨w, htext, hw, -⟩ := exists_toText_ofWhole hlarge' hn
        have := hdecimal (h.trans htext)
        omega
    · obtain ⟨w, htext, hw, hround⟩ := exists_toText_ofWhole hlarge hm
      rcases Nat.lt_or_ge n (2 ^ 63) with hsmall' | hlarge'
      · rw [toText_ofWhole_of_lt hsmall'] at h
        have := hdecimal (h.symm.trans htext)
        omega
      · obtain ⟨w', htext', -, hround'⟩ := exists_toText_ofWhole hlarge' hn
        obtain rfl := hdecimal (htext.symm.trans (h.trans htext'))
        exact .inr ⟨hlarge, hlarge', hround.symm.trans hround'⟩
  · rintro (rfl | ⟨hlarge, hlarge', hround⟩)
    · rfl
    · rw [toText_ofWhole_of_le hlarge, toText_ofWhole_of_le hlarge', textOfDouble, textOfDouble,
        ofFloat_doubleOfInt_large hlarge hm, ofFloat_doubleOfInt_large hlarge' hn, hround]

/-- A number reads like its decimal text unless it is large and not the shortest text of its double. -/
theorem toText_ofWhole_eq_decimal_iff {n : Nat} :
    (ofWhole n).toText = decimal n ↔ n < 2 ^ 63 ∨ textOfDouble (doubleOfInt n) = decimal n := by
  rcases Nat.lt_or_ge n (2 ^ 63) with hsmall | hlarge
  · exact iff_of_true (toText_ofWhole_of_lt hsmall) (.inl hsmall)
  · have hnot : ¬ n < 2 ^ 63 := by omega
    simp only [toText_ofWhole_of_le hlarge, hnot, false_or]

end Scalar

/-! ## Span objects -/

namespace Json

/-- The member of an object under a name. -/
def memberOf? (name : String) : Json → Option Json
  | .object members => member? name members
  | _ => none

/-- The text of a scalar that an object gives under a name; null gives none. -/
def scalarText? (name : String) (v : Json) : Option String :=
  (v.memberOf? name).bind fun w => (Scalar.ofJson w).toOption.map Scalar.toText

/-- The object gives a span this number in that segment, and no id of its own. -/
structure NumbersSpan (v : Json) (segment : Option String) (number : Json) : Prop where
  ownId : v.scalarText? "id" = none
  segment : v.scalarText? "segmentId" = segment
  number : v.memberOf? "spanId" = some number

end Json

open JsonDecoder

theorem text_of_byName_scalar {members : List (String × Json)} {name : String} {x : Option Scalar}
    (h : (maybe name Scalar.ofJson).ByName members x) :
    x.map Scalar.toText = (Json.object members).scalarText? name := by
  simp only [Field.ByName, maybe] at h
  simp only [Json.scalarText?, Json.memberOf?, Json.member?]
  split at h
  · next node hnode =>
    rw [hnode, Option.bind_some]
    cases node with
    | null =>
      obtain rfl : none = x := Except.ok.inj h
      rfl
    | _ =>
      simp only [JsonDecoder.optional] at h
      obtain ⟨y, hread, rfl⟩ := map_eq_ok_iff.mp h
      rw [hread]
      rfl
  · next hnone =>
    obtain rfl : none = x := Option.some.inj h
    rw [hnone]
    rfl

/-- The scalars by which a span is identified are read out of the members of their names. -/
theorem SpanRecord.scalars_of_ofJson {members : List (String × Json)} {r : SpanRecord}
    (h : SpanRecord.ofJson (.object members) = .ok r) :
    r.id.map Scalar.toText = (Json.object members).scalarText? "id" ∧
      r.spanId.map Scalar.toText = (Json.object members).scalarText? "spanId" ∧
      r.segmentId.map Scalar.toText = (Json.object members).scalarText? "segmentId" := by
  obtain ⟨values, hvalues, hr⟩ := bind_eq_ok_iff.mp h
  obtain rfl := Except.ok.inj hr
  obtain ⟨hid, -, hspanId, hsegmentId, -⟩ := Fields.byName_of_ofMembers_eq_ok distinct_fields hvalues
  exact ⟨text_of_byName_scalar hid, text_of_byName_scalar hspanId, text_of_byName_scalar hsegmentId⟩

/-- A numbered span has the id of its place. -/
theorem id_of_numbersSpan {v : Json} {segment : Option String} {number : Json} {x : Scalar}
    {r : SpanRecord} {known : List String} {s : Span} (hv : v.NumbersSpan segment number)
    (hx : Scalar.ofJson number = .ok x) (hr : SpanRecord.ofJson v = .ok r) (hs : r.Yields known s) :
    s.id = SpanPlace.id ⟨segment, x.toText⟩ := by
  obtain ⟨hown, rfl, hnumber⟩ := hv
  cases v with
  | object members =>
    obtain ⟨hid, hspanId, hsegment⟩ := SpanRecord.scalars_of_ofJson hr
    rw [hown, Option.map_eq_none_iff] at hid
    rw [Json.scalarText?, hnumber, Option.bind_some, hx] at hspanId
    obtain ⟨y, hy, htext⟩ : ∃ y, r.spanId = some y ∧ y.toText = x.toText :=
      Option.map_eq_some_iff.mp hspanId
    have hplace : r.place? = some ⟨(Json.object members).scalarText? "segmentId", x.toText⟩ := by
      rw [SpanRecord.place?, hy, ← hsegment, ← htext]
      rfl
    have hid' := hs.1
    rw [SpanRecord.ownId?_of_id_eq_none hid, hplace] at hid'
    exact (Option.some.inj hid').symm
  | _ => cases hnumber

/-- In one segment ids differ as numbers do. -/
theorem SpanPlace.id_eq_id_iff_of_segment {segment : Option String} {m n : String} :
    SpanPlace.id ⟨segment, m⟩ = SpanPlace.id ⟨segment, n⟩ ↔ m = n := by
  cases segment <;> simp [SpanPlace.id]

/-! ## Main statement -/

/-- What the numbers in a document say about its spans. -/
structure NumericIds (values : List Json) (spans : List Span) : Prop where
  /-- Two spans with numbers in one segment, or without one, have one id exactly if the numbers are the
  same or become the same double. -/
  apart : ∀ v s v' s' segment, (v, s) ∈ values.zip spans → (v', s') ∈ values.zip spans →
    ∀ m n : Nat, v.NumbersSpan segment (.number (.whole m)) → v'.NumbersSpan segment (.number (.whole n)) →
    m < 2 ^ 64 → n < 2 ^ 64 → (s.id = s'.id ↔
      m = n ∨ 2 ^ 63 ≤ m ∧ 2 ^ 63 ≤ n ∧ roundDiv m 2048 .toEven = roundDiv n 2048 .toEven)
  /-- A number reads like its decimal text below `2^63`, and above if it is the text of its double. -/
  asText : ∀ v s v' s' segment, (v, s) ∈ values.zip spans → (v', s') ∈ values.zip spans →
    ∀ n : Nat, v.NumbersSpan segment (.number (.whole n)) → v'.NumbersSpan segment (.text (decimal n)) →
    (s.id = s'.id ↔ n < 2 ^ 63 ∨ textOfDouble (doubleOfInt n) = decimal n)

/-- **Numeric ids below `2^63` are kept apart**, and larger ones as far as doubles tell them apart. -/
theorem numericIds_of_parseTrace_eq_ok {input : String} {spans : List Span}
    (hok : parseTrace input = .ok spans) :
    ∃ values, valuesOf? input = some values ∧ NumericIds values spans := by
  obtain ⟨values, hlists, hyields⟩ := parseTrace_eq_ok_iff_forall₂.mp hok
  have hid : ∀ v s segment number x, (v, s) ∈ values.zip spans → v.NumbersSpan segment number →
      Scalar.ofJson number = .ok x → s.id = SpanPlace.id ⟨segment, x.toText⟩ := by
    intro v s segment number x hvs hv hx
    obtain ⟨r, hr, hs⟩ := (List.forall₂_iff_zip.mp hyields).2 hvs
    exact id_of_numbersSpan hv hx hr hs
  refine ⟨values, valuesOf?_eq_some_iff.mpr hlists, ?apart, ?asText⟩
  case apart =>
    intro v s v' s' segment hvs hvs' m n hv hv' hm hn
    rw [hid v s segment _ _ hvs hv (Scalar.ofJson_number m),
      hid v' s' segment _ _ hvs' hv' (Scalar.ofJson_number n), SpanPlace.id_eq_id_iff_of_segment,
      Scalar.toText_ofWhole_eq_iff hm hn]
  case asText =>
    intro v s v' s' segment hvs hvs' n hv hv'
    rw [hid v s segment _ _ hvs hv (Scalar.ofJson_number n),
      hid v' s' segment _ (.text (decimal n)) hvs' hv' rfl, SpanPlace.id_eq_id_iff_of_segment,
      ← Scalar.toText_ofWhole_eq_decimal_iff]
    rfl

/-- The first number that becomes a double, and one two thousand later. -/
def largeNumbers : String :=
  "[\x7b\"spanId\":9223372036854775808,\"startTime\":0,\"endTime\":0\x7d," ++
  "\x7b\"spanId\":9223372036854777808,\"startTime\":0,\"endTime\":0\x7d]"

def largeNumbersSpans : List Span := [
  { id := "9223372036854776000", parentId := none, startTime := 0, endTime := 0, label := "", actor := "" },
  { id := "9223372036854778000", parentId := none, startTime := 0, endTime := 0, label := "", actor := "" }]

theorem largeNumbers_apart :
    parseTrace largeNumbers = .ok largeNumbersSpans ∧
      ∃ values, valuesOf? largeNumbers = some values ∧ NumericIds values largeNumbersSpans := by
  have hok : parseTrace largeNumbers = .ok largeNumbersSpans :=
    eq_ok_of_toOption_eq_some (by decide +kernel)
  exact ⟨hok, numericIds_of_parseTrace_eq_ok hok⟩

/-- The first number that becomes a double, and the next one. -/
def neighbouringNumbers : String :=
  "[\x7b\"spanId\":9223372036854775808,\"startTime\":0,\"endTime\":0\x7d," ++
  "\x7b\"spanId\":9223372036854775809,\"startTime\":0,\"endTime\":0\x7d]"

/-- The whole number that an object gives under a name. -/
def Json.wholeUnder? (name : String) (v : Json) : Option Int :=
  match v.memberOf? name with
  | some (.number (.whole n)) => some n
  | _ => none

/-- Two different numbers without a segment become one id, which is the decimal text of neither. -/
theorem neighbouringNumbers_one_id :
    (valuesOf? neighbouringNumbers).map (·.map fun v =>
        (v.scalarText? "id", v.scalarText? "segmentId", v.wholeUnder? "spanId")) =
      some [(none, none, some 9223372036854775808), (none, none, some 9223372036854775809)] ∧
    (parseTrace neighbouringNumbers).toOption.map (·.map (·.id)) =
      some ["9223372036854776000", "9223372036854776000"] := by
  decide +kernel

end Waterfall
