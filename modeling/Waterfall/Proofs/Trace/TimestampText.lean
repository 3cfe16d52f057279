import Waterfall.Proofs.Number.DigitOrder
import Waterfall.Proofs.Trace.Gregorian
import Waterfall.Trace.Timestamp

/-!
# Timestamps lose nothing

The text of a time shows its date and its time of day in UTC, so that the time can be read off again;
a time without a date is written as its number. The texts of any two times differ, and as long as years have
four digits the texts are in order as the times are.

A text is read from left to right, each number up to the separator after it (`Timestamp.read?`). For the order
the numbers have to be as wide in one text as in another (`Timestamp.padded_lt_iff`).
-/

namespace Waterfall

/-! ## Reading a text -/

/-- The number at the start of a text, and what follows it. -/
def digitsAt (cs : List Char) : Nat × List Char :=
  (Digits.toNat (cs.span Digits.isDigit).1, (cs.span Digits.isDigit).2)

/-- The same for a number that may have a sign. -/
def signedAt : List Char → Int × List Char
  | '-' :: cs => (-(digitsAt cs).1, (digitsAt cs).2)
  | '+' :: cs => ((digitsAt cs).1, (digitsAt cs).2)
  | cs => ((digitsAt cs).1, (digitsAt cs).2)

/-- The number after a separator. -/
def numberAfter (separator : Char) : List Char → Option (Nat × List Char)
  | c :: cs => if c = separator then some (digitsAt cs) else none
  | [] => none

/-- The timestamp that a text shows. -/
def Timestamp.read? (cs : List Char) : Option Timestamp := do
  let (year, cs) := signedAt cs
  let (month, cs) ← numberAfter '-' cs
  let (day, cs) ← numberAfter '-' cs
  let (hour, cs) ← numberAfter ' ' cs
  let (minute, cs) ← numberAfter ':' cs
  let (second, cs) ← numberAfter ':' cs
  let (milli, cs) ← numberAfter '.' cs
  if cs = [] then some { date := { year, month, day }, hour, minute, second, milli } else none

namespace Timestamp

/-! ## Numbers in a text -/

theorem toNat_replicate_append (n : Nat) (ds : List Char) :
    Digits.toNat (List.replicate n '0' ++ ds) = Digits.toNat ds := by
  induction n with
  | zero => rfl
  | succ n ih =>
    rw [List.replicate_succ, List.cons_append]
    exact ih

theorem toNat_padded (width : Nat) (n : Int) : Digits.toNat (padded width n) = n.natAbs := by
  unfold padded
  rw [toNat_replicate_append, Digits.toNat_ofNat]

theorem areDigits_padded (width : Nat) (n : Int) : AreDigits (padded width n) := by
  obtain ⟨hne, hall⟩ := areDigits_ofNat n.natAbs
  refine ⟨fun h => hne (List.append_eq_nil_iff.mp h).2, fun c hc => ?_⟩
  rcases List.mem_append.mp hc with hzero | hdigit
  · rw [List.eq_of_mem_replicate hzero]
    decide
  · exact hall c hdigit

theorem digitsAt_append {ds cs : List Char} (hds : AreDigits ds) (h : EndsDigits cs) :
    digitsAt (ds ++ cs) = (Digits.toNat ds, cs) := by
  rw [digitsAt, hds.span_append h]

/-- A number that starts with a digit has no sign. -/
theorem signedAt_append {ds cs : List Char} (hds : AreDigits ds) (h : EndsDigits cs) :
    signedAt (ds ++ cs) = ((Digits.toNat ds : Int), cs) := by
  have hread := digitsAt_append hds h
  obtain ⟨c, tail, rfl⟩ := List.exists_cons_of_ne_nil hds.1
  have hc : Digits.isDigit c = true := hds.2 c List.mem_cons_self
  rw [List.cons_append] at hread ⊢
  unfold signedAt
  split
  · next heq =>
    obtain ⟨rfl, -⟩ := List.cons.inj heq
    exact absurd hc (by decide)
  · next heq =>
    obtain ⟨rfl, -⟩ := List.cons.inj heq
    exact absurd hc (by decide)
  · rw [hread]

theorem signedAt_yearText (year : Int) {cs : List Char} (h : EndsDigits cs) :
    signedAt (yearText year ++ cs) = (year, cs) := by
  have hdigits := areDigits_padded 4 year
  have hnumber := toNat_padded 4 year
  unfold yearText
  split
  · next hyear =>
    rw [signedAt_append hdigits h, hnumber, Int.natAbs_of_nonneg hyear.1]
  · next hyear =>
    rw [List.cons_append]
    by_cases hneg : year < 0
    · rw [if_pos hneg, signedAt, digitsAt_append hdigits h, hnumber, Int.ofNat_natAbs_of_nonpos (by omega),
        Int.neg_neg]
    · rw [if_neg hneg, signedAt, digitsAt_append hdigits h, hnumber, Int.natAbs_of_nonneg (by omega)]

/-- A whole number is read to its end. -/
theorem signedAt_ofInt (n : Int) : signedAt (Digits.ofInt n) = (n, []) := by
  have hdigits := areDigits_ofNat n.natAbs
  have hnumber := Digits.toNat_ofNat n.natAbs
  unfold Digits.ofInt
  rw [← List.append_nil (Digits.ofNat n.natAbs)]
  split
  · next hneg =>
    rw [signedAt, digitsAt_append hdigits endsDigits_nil, hnumber, Int.ofNat_natAbs_of_nonpos (by omega), Int.neg_neg]
  · next hpos =>
    rw [signedAt_append hdigits endsDigits_nil, hnumber, Int.natAbs_of_nonneg (by omega)]

theorem numberAfter_padded (separator : Char) (width : Nat) {n : Int} (hn : 0 ≤ n) {cs : List Char}
    (h : EndsDigits cs) :
    numberAfter separator (separator :: (padded width n ++ cs)) = some (n.toNat, cs) := by
  rw [numberAfter, if_pos rfl, digitsAt_append (areDigits_padded width n) h, toNat_padded,
    show n.natAbs = n.toNat by omega]

/-- A time of day, whatever the date. -/
structure OnClock (t : Timestamp) : Prop where
  hour : 0 ≤ t.hour ∧ t.hour < 24
  minute : 0 ≤ t.minute ∧ t.minute < 60
  second : 0 ≤ t.second ∧ t.second < 60
  milli : 0 ≤ t.milli ∧ t.milli < 1000

/-- A date of the calendar and a time of day. -/
structure IsValid (t : Timestamp) : Prop extends t.OnClock where
  date : t.date.IsValid

theorem read?_text {t : Timestamp} (h : t.IsValid) : read? t.text = some t := by
  have hmonth : 0 ≤ t.date.month := Int.le_trans (by decide) h.date.one_le_month
  have hday : 0 ≤ t.date.day := Int.le_trans (by decide) h.date.one_le_day
  have hdash := fun cs => endsDigits_cons (c := '-') cs (by decide)
  have hspace := fun cs => endsDigits_cons (c := ' ') cs (by decide)
  have hcolon := fun cs => endsDigits_cons (c := ':') cs (by decide)
  have hpoint := fun cs => endsDigits_cons (c := '.') cs (by decide)
  simp only [read?, text, minuteText, List.append_assoc, List.cons_append]
  -- The last number goes on with nothing.
  rw [← List.append_nil (padded 3 t.milli)]
  simp only [signedAt_yearText _ (hdash _), numberAfter_padded _ _ hmonth (hdash _),
    numberAfter_padded _ _ hday (hspace _), numberAfter_padded _ _ h.hour.1 (hcolon _),
    numberAfter_padded _ _ h.minute.1 (hcolon _), numberAfter_padded _ _ h.second.1 (hpoint _),
    numberAfter_padded _ _ h.milli.1 endsDigits_nil, Option.bind_eq_bind, Option.bind_some, if_true]
  simp only [Int.toNat_of_nonneg, hmonth, hday, h.hour.1, h.minute.1, h.second.1, h.milli.1]

/-- A sign says that the year has not four digits. -/
theorem head?_text (t : Timestamp) :
    (t.text.head? = some '-' ↔ t.date.year < 0) ∧ (t.text.head? = some '+' ↔ 9999 < t.date.year) := by
  have hdigits := areDigits_padded 4 t.date.year
  obtain ⟨c, ds, hcons⟩ := List.exists_cons_of_ne_nil hdigits.1
  have hc : Digits.isDigit c = true := hdigits.2 c (by rw [hcons]; exact List.mem_cons_self)
  have hminus : c ≠ '-' := fun h => absurd (h ▸ hc) (by decide)
  have hplus : c ≠ '+' := fun h => absurd (h ▸ hc) (by decide)
  unfold text yearText
  rw [hcons]
  split
  · simp [hminus, hplus]
    omega
  · split
    · simp
      omega
    · simp
      omega

end Timestamp

/-! ## The order of texts -/

namespace Timestamp

theorem length_padded {width : Nat} (hwidth : 0 < width) {n : Int} (h : n.natAbs < 10 ^ width) :
    (padded width n).length = width := by
  have hcount : (Digits.ofNat n.natAbs).length ≤ width := by
    rw [Digits.ofNat_eq_toDigits]
    exact (Nat.length_toDigits_le_iff (by decide) hwidth).mpr h
  unfold padded
  rw [List.length_append, List.length_replicate]
  omega

/-- Numbers filled up to one width are in order as their texts are. -/
theorem padded_lt_iff {width : Nat} {m n : Int} (hwidth : 0 < width) (hm : 0 ≤ m)
    (hm' : m.natAbs < 10 ^ width) (hn : 0 ≤ n) (hn' : n.natAbs < 10 ^ width) :
    (padded width m < padded width n ↔ m < n) ∧ (padded width m = padded width n ↔ m = n) := by
  have hlength : (padded width m).length = (padded width n).length := by
    rw [length_padded hwidth hm', length_padded hwidth hn']
  obtain ⟨hlt, heq⟩ := digits_lt_iff (areDigits_padded width m).2 (areDigits_padded width n).2 hlength
  rw [hlt, heq, toNat_padded, toNat_padded]
  omega

/-- A number at the start of a text is compared first. -/
theorem padded_append_lt_iff {width : Nat} {m n : Int} (hwidth : 0 < width) (hm : 0 ≤ m)
    (hm' : m.natAbs < 10 ^ width) (hn : 0 ≤ n) (hn' : n.natAbs < 10 ^ width) (cs ds : List Char) :
    padded width m ++ cs < padded width n ++ ds ↔ m < n ∨ m = n ∧ cs < ds := by
  obtain ⟨hlt, heq⟩ := padded_lt_iff hwidth hm hm' hn hn'
  rw [append_lt_append_iff, hlt, heq]
  rw [length_padded hwidth hm', length_padded hwidth hn']

/-- A timestamp has an earlier date, or on the same date an earlier time of day. -/
def Before (t u : Timestamp) : Prop :=
  t.date.Before u.date ∨ t.date = u.date ∧ (t.hour < u.hour ∨ t.hour = u.hour ∧
    (t.minute < u.minute ∨ t.minute = u.minute ∧
      (t.second < u.second ∨ t.second = u.second ∧ t.milli < u.milli)))

/-- A year of four digits. -/
def HasPlainYear (t : Timestamp) : Prop := 0 ≤ t.date.year ∧ t.date.year ≤ 9999

theorem text_lt_text_iff {t u : Timestamp} (ht : t.IsValid) (hu : u.IsValid) (hyear : t.HasPlainYear)
    (hyear' : u.HasPlainYear) : t.text < u.text ↔ t.Before u := by
  obtain ⟨⟨hhour, hminute, hsecond, hmilli⟩, hmonth, hmonth', hday, hday'⟩ := ht
  obtain ⟨⟨hhouru, hminuteu, hsecondu, hmilliu⟩, hmonthu, hmonthu', hdayu, hdayu'⟩ := hu
  have hlength := Date.monthLength_le t.date.year t.date.month
  have hlengthu := Date.monthLength_le u.date.year u.date.month
  unfold HasPlainYear at hyear hyear'
  unfold text minuteText yearText
  rw [if_pos hyear, if_pos hyear']
  simp (disch := omega) only [List.append_assoc, List.cons_append, padded_append_lt_iff,
    List.cons_lt_cons_self, padded_lt_iff]
  unfold Before Date.Before
  rw [Date.eq_iff]
  omega

theorem utf8Size_padded (width : Nat) (n : Int) : ∀ c ∈ padded width n, c.utf8Size = 1 := by
  intro c hc
  obtain ⟨-, -, hle⟩ := Digits.value?_of_isDigit ((areDigits_padded width n).2 c hc)
  exact Char.utf8Size_eq_one_iff.mpr (Nat.le_trans hle (by decide))

theorem utf8Size_text (t : Timestamp) : ∀ c ∈ t.text, c.utf8Size = 1 := by
  have hyear : ∀ c ∈ yearText t.date.year, c.utf8Size = 1 := by
    unfold yearText
    split
    · exact utf8Size_padded _ _
    · refine List.forall_mem_cons.mpr ⟨?_, utf8Size_padded _ _⟩
      split <;> decide
  unfold text minuteText
  simp only [List.forall_mem_append, List.forall_mem_cons]
  have hpadded := utf8Size_padded
  exact ⟨⟨⟨⟨hyear, by decide, hpadded 2 _⟩, by decide, hpadded 2 _⟩, by decide, hpadded 2 _⟩, by decide,
    ⟨hpadded 2 _, by decide, hpadded 2 _⟩, by decide, hpadded 3 _⟩

/-! ## Times -/

/-- The timestamp of a time: the date of its day, and how much of that day has gone. -/
structure IsAt (t : Timestamp) (time : Int) : Prop extends t.OnClock where
  date : t.date = .ofDays (time / millisPerDay)
  elapsed : t.hour * 3600000 + t.minute * 60000 + t.second * 1000 + t.milli = time % millisPerDay

namespace IsAt

variable {t u : Timestamp} {time time' : Int}

theorem isValid (h : t.IsAt time) : t.IsValid where
  toOnClock := h.toOnClock
  date := h.date ▸ Date.ofDays_isValid _

theorem toMillis_eq (h : t.IsAt time) : t.toMillis = time := by
  have helapsed := h.elapsed
  have hsplit := Int.mul_ediv_add_emod time millisPerDay
  rw [toMillis, h.date, Date.toDays_ofDays]
  unfold millisPerDay at *
  omega

theorem before_iff (h : t.IsAt time) (h' : u.IsAt time') : t.Before u ↔ time < time' := by
  have hdate : t.date = u.date ↔ time / millisPerDay = time' / millisPerDay := by
    rw [h.date, h'.date]
    refine ⟨fun heq => ?_, fun heq => by rw [heq]⟩
    rw [← Date.toDays_ofDays (time / millisPerDay), heq, Date.toDays_ofDays]
  unfold Before
  rw [hdate, h.date, h'.date, Date.before_ofDays_iff]
  obtain ⟨⟨hhour, hminute, hsecond, hmilli⟩, -, helapsed⟩ := h
  obtain ⟨⟨hhour', hminute', hsecond', hmilli'⟩, -, helapsed'⟩ := h'
  unfold millisPerDay at *
  omega

end IsAt

/-- The year of a time. -/
def yearOf (time : Int) : Int := (Date.ofDays (time / millisPerDay)).year

/-- The years that have dates. -/
def HasDate (time : Int) : Prop := -262143 ≤ yearOf time ∧ yearOf time ≤ 262142

/-- The first and the last of the dates that exist are those of the first and of the last day of these
years. -/
theorem hasDate_iff {time : Int} : HasDate time ↔ earliest ≤ time ∧ time ≤ latest := by
  have hfirst := @Date.year_ofDays_le_iff (-96465293) (time / millisPerDay) (by decide)
  have hlast := @Date.year_ofDays_le_iff 95026236 (time / millisPerDay) (by decide)
  rw [show (Date.ofDays (-96465293)).year = -262144 by decide] at hfirst
  rw [show (Date.ofDays 95026236).year = 262142 by decide] at hlast
  unfold HasDate yearOf earliest latest
  unfold millisPerDay at *
  omega

theorem exists_isAt {time : Int} (h : HasDate time) : ∃ t, ofMillis? time = some t ∧ t.IsAt time := by
  refine ⟨_, if_pos (hasDate_iff.mp h), ⟨?_, ?_, ?_, ?_⟩, rfl, ?_⟩ <;>
  · dsimp only
    unfold millisPerDay
    omega

end Timestamp

/-! ## Main statement -/

open Timestamp

/-- A text shows a timestamp: it can be read off, and the year has a sign if it has not four digits. -/
structure Shows (text : List Char) (t : Timestamp) : Prop where
  read : Timestamp.read? text = some t
  minus : text.head? = some '-' ↔ t.date.year < 0
  plus : text.head? = some '+' ↔ 9999 < t.date.year

/-- A way to write times from which they can be told again. -/
structure LosesNothing (format : Int → String) : Prop where
  /-- The dates of timestamps are those of the proleptic Gregorian calendar. -/
  calendar : ∀ date : Int → Date, Date.IsCalendar date ↔ date = Date.ofDays
  dated : ∀ time, HasDate time →
    ∃ t : Timestamp, t.IsAt time ∧ Shows (format time).toList t ∧ t.toMillis = time
  undated : ∀ time, ¬ HasDate time → format time = toString time
  injective : Function.Injective format
  ordered : ∀ time time', 0 ≤ yearOf time → yearOf time ≤ 9999 → 0 ≤ yearOf time' → yearOf time' ≤ 9999 →
    (utf8 (format time) < utf8 (format time') ↔ time < time')

theorem formatTimestamp_of_hasDate {time : Int} (h : HasDate time) :
    ∃ t : Timestamp, t.IsAt time ∧ formatTimestamp time = .ofList t.text := by
  obtain ⟨t, hsome, hat⟩ := exists_isAt h
  refine ⟨t, hat, ?_⟩
  rw [formatTimestamp, formatTime, hsome]

theorem formatTimestamp_of_not_hasDate {time : Int} (h : ¬ HasDate time) :
    formatTimestamp time = .ofList (Digits.ofInt time) := by
  have hnone : ofMillis? time = none := if_neg fun hrange => h (hasDate_iff.mpr hrange)
  rw [formatTimestamp, formatTime, hnone]

theorem Timestamp.IsValid.shows {t : Timestamp} (h : t.IsValid) : Shows t.text t where
  read := read?_text h
  minus := (head?_text t).1
  plus := (head?_text t).2

/-- A number by itself is not a timestamp. -/
theorem read?_ofInt (n : Int) : Timestamp.read? (Digits.ofInt n) = none := by
  rw [Timestamp.read?, signedAt_ofInt]
  rfl

theorem formatTimestamp_injective : Function.Injective formatTimestamp := by
  have hread : ∀ {time : Int}, HasDate time → ∃ t : Timestamp, t.IsAt time ∧
      Timestamp.read? (formatTimestamp time).toList = some t := by
    intro time h
    obtain ⟨t, hat, htext⟩ := formatTimestamp_of_hasDate h
    refine ⟨t, hat, ?_⟩
    rw [htext, String.toList_ofList, read?_text hat.isValid]
  have hnumber : ∀ {time : Int}, ¬ HasDate time →
      Timestamp.read? (formatTimestamp time).toList = none := by
    intro time h
    rw [formatTimestamp_of_not_hasDate h, String.toList_ofList, read?_ofInt]
  intro time time' heq
  by_cases h : HasDate time <;> by_cases h' : HasDate time'
  · obtain ⟨t, hat, ht⟩ := hread h
    obtain ⟨u, hat', hu⟩ := hread h'
    rw [heq, hu] at ht
    rw [← hat.toMillis_eq, ← hat'.toMillis_eq, Option.some.inj ht]
  · obtain ⟨t, -, ht⟩ := hread h
    rw [heq, hnumber h'] at ht
    cases ht
  · obtain ⟨u, -, hu⟩ := hread h'
    rw [← heq, hnumber h] at hu
    cases hu
  · rw [formatTimestamp_of_not_hasDate h, formatTimestamp_of_not_hasDate h'] at heq
    exact Digits.ofInt_injective (String.ofList_injective heq)

/-- **Timestamps lose nothing**: the date and the time of day that are shown are those of the time, which can
be told from them, and every time has a text of its own. -/
theorem losesNothing_formatTimestamp : LosesNothing formatTimestamp where
  calendar _ := Date.isCalendar_iff
  dated time h := by
    obtain ⟨t, hat, htext⟩ := formatTimestamp_of_hasDate h
    refine ⟨t, hat, ?_, hat.toMillis_eq⟩
    rw [htext, String.toList_ofList]
    exact hat.isValid.shows
  undated time h := by
    rw [formatTimestamp_of_not_hasDate h, Digits.ofInt_eq_toString]
  injective := formatTimestamp_injective
  ordered time time' hyear hyear₁ hyear' hyear₁' := by
    have h : HasDate time := ⟨by omega, by omega⟩
    have h' : HasDate time' := ⟨by omega, by omega⟩
    obtain ⟨t, hat, htext⟩ := formatTimestamp_of_hasDate h
    obtain ⟨u, hat', htext'⟩ := formatTimestamp_of_hasDate h'
    have hplain : t.HasPlainYear := by
      rw [HasPlainYear, hat.date]
      exact ⟨hyear, hyear₁⟩
    have hplain' : u.HasPlainYear := by
      rw [HasPlainYear, hat'.date]
      exact ⟨hyear', hyear₁'⟩
    rw [htext, htext', utf8_lt_utf8_iff t.utf8Size_text u.utf8Size_text,
      text_lt_text_iff hat.isValid hat'.isValid hplain hplain', hat.before_iff hat']

example : formatTimestamp (-1) = "1969-12-31 23:59:59.999" := by decide +kernel

end Waterfall
