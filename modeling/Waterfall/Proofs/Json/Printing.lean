import Mathlib.Data.List.TakeDrop
import Waterfall.Json.Printer
import Waterfall.Proofs.Json.Reading
import Waterfall.Proofs.Number.Digits
import Waterfall.Trace.Time

/-!
# Reading what is printed

The compact form of a document is one of its texts (`isTextOf_compact`), as long as its numbers are whole
and in the range of 64 bits. Each token is read back as far as what follows it: a string up to its closing
quote, a number up to the comma or the bracket behind it.
-/

namespace Waterfall.Json

/-! ## Strings -/

theorem hexValue?_hexDigit : ∀ n : Fin 16, hexValue? (hexDigit n.1) = some n.1 := by decide

/-- A control character is read back from its four hexadecimal digits. -/
theorem unescape_control {c : Char} (hc : c.toNat < 0x20) (rest : List Char) :
    unescape ('u' :: '0' :: '0' :: hexDigit (c.toNat / 16) :: hexDigit (c.toNat % 16) :: rest) =
      .ok (c, 5) := by
  have hhigh := hexValue?_hexDigit ⟨c.toNat / 16, by omega⟩
  have hlow := hexValue?_hexDigit ⟨c.toNat % 16, by omega⟩
  have hzero : hexValue? '0' = some 0 := by decide
  have hvalue : ((0 * 16 + 0) * 16 + c.toNat / 16) * 16 + c.toNat % 16 = c.toNat := by omega
  have hlowSurrogate : isLowSurrogate c.toNat = false := by simp [isLowSurrogate]; omega
  have hhighSurrogate : isHighSurrogate c.toNat = false := by simp [isHighSurrogate]; omega
  simp only [unescape, fourDigits, hzero, hhigh, hlow, hvalue, hlowSurrogate, hhighSurrogate,
    Bool.false_eq_true, if_false, Char.ofNat_toNat]

/-- What an escape takes is passed over. -/
theorem contentsFrom_length (taken cs : List Char) :
    contentsFrom taken.length (taken ++ cs) = contentsFrom 0 cs := by
  induction taken with
  | nil => rfl
  | cons c taken ih => exact ih

theorem contentsFrom_backslash (taken : List Char) {cs : List Char} {c : Char}
    (h : unescape (taken ++ cs) = .ok (c, taken.length)) :
    contentsFrom 0 ('\\' :: (taken ++ cs)) =
      (contentsFrom 0 cs).map fun (chs, after) => (c :: chs, after) := by
  simp only [contentsFrom, h, contentsFrom_length]
  rw [if_neg (by decide), if_pos trivial]
  cases contentsFrom 0 cs <;> rfl

/-- A character is read back from what is written for it. -/
theorem contentsFrom_escape (c : Char) (cs : List Char) :
    contentsFrom 0 (escape c ++ cs) = (contentsFrom 0 cs).map fun (chs, after) => (c :: chs, after) := by
  unfold escape
  split_ifs with hquote hslash hback hfeed hline hreturn htab hcontrol
  · subst hquote
    exact contentsFrom_backslash ['"'] rfl
  · subst hslash
    exact contentsFrom_backslash ['\\'] rfl
  · subst hback
    exact contentsFrom_backslash ['b'] rfl
  · subst hfeed
    exact contentsFrom_backslash ['f'] rfl
  · subst hline
    exact contentsFrom_backslash ['n'] rfl
  · subst hreturn
    exact contentsFrom_backslash ['r'] rfl
  · subst htab
    exact contentsFrom_backslash ['t'] rfl
  · exact contentsFrom_backslash ['u', '0', '0', _, _] (unescape_control hcontrol cs)
  · exact contentsFrom_plain cs hquote hslash (by omega)

/-- A text is read back from what is written between its quotes. -/
theorem contents_escaped (s : String) (rest : List Char) :
    contents (s.toList.flatMap escape ++ '"' :: rest) = .ok (s, rest) := by
  have hfrom : ∀ cs : List Char, contentsFrom 0 (cs.flatMap escape ++ '"' :: rest) = .ok (cs, rest) := by
    intro cs
    induction cs with
    | nil => rfl
    | cons c cs ih =>
      rw [List.flatMap_cons, List.append_assoc, contentsFrom_escape, ih]
      rfl
  simp only [contents, hfrom, String.ofList_toList]

/-! ## Numbers -/

/-- What follows does not continue a number. -/
def EndsNumber (rest : List Char) : Prop :=
  ∀ c tail, rest = c :: tail → Digits.isDigit c = false ∧ c ≠ '.' ∧ c ≠ 'e' ∧ c ≠ 'E'

/-- Digits whose number fits are all taken. -/
theorem appendDigits_eq {ds : List Char} {n : Nat}
    (h : ds.foldl (fun n c => 10 * n + (Digits.value? c).getD 0) n ≤ mostSignificand) :
    appendDigits n ds = (ds.foldl (fun n c => 10 * n + (Digits.value? c).getD 0) n, ds.length) := by
  have hgrows : ∀ (ds : List Char) (n : Nat),
      n ≤ ds.foldl (fun n c => 10 * n + (Digits.value? c).getD 0) n := by
    intro ds
    induction ds with
    | nil => exact Nat.le_refl
    | cons d ds ih =>
      intro n
      have := ih (10 * n + (Digits.value? d).getD 0)
      rw [List.foldl_cons]
      omega
  induction ds generalizing n with
  | nil => rfl
  | cons d ds ih =>
    rw [List.foldl_cons] at h ⊢
    have hnext := hgrows ds (10 * n + (Digits.value? d).getD 0)
    simp only [appendDigits]
    rw [if_neg (by omega), ih h, List.length_cons]

theorem exponent?_of_endsNumber {rest : List Char} (hrest : EndsNumber rest) : exponent? rest = none := by
  unfold exponent?
  split
  · exact absurd rfl (hrest _ _ rfl).2.2.1
  · exact absurd rfl (hrest _ _ rfl).2.2.2
  · rfl

theorem afterWhole_ofNat (negative : Bool) {n : Nat} (hn : n ≤ mostSignificand) {rest : List Char}
    (hrest : EndsNumber rest) :
    afterWhole negative (Digits.ofNat n) rest = .ok (wholeNumber negative n, rest) := by
  have hdigits : appendDigits 0 (Digits.ofNat n) = (n, (Digits.ofNat n).length) := by
    have hvalue := Digits.toNat_ofNat n
    unfold Digits.toNat at hvalue
    rw [appendDigits_eq (by rw [hvalue]; exact hn), hvalue]
  unfold afterWhole
  simp only [hdigits, Nat.sub_self]
  split
  · exact absurd rfl (hrest _ _ rfl).2.1
  · rw [exponent?_of_endsNumber hrest]
    rfl

theorem EndsNumber.endsDigits {rest : List Char} (h : EndsNumber rest) : EndsDigits rest :=
  fun c tail hc => (h c tail hc).1

/-- Digits as a number has them before its point: a zero in front stands alone. -/
def IsWhole (ds : List Char) : Prop := AreDigits ds ∧ ∀ tail, ds = '0' :: tail → tail = []

theorem isWhole_ofNat (n : Nat) : IsWhole (Digits.ofNat n) := by
  refine ⟨areDigits_ofNat n, fun tail htail => ?_⟩
  obtain ⟨c, ds, hds, hzero⟩ := exists_digit_ofNat n
  obtain ⟨rfl, rfl⟩ := List.cons.inj (hds.symm.trans htail)
  obtain rfl := hzero rfl
  unfold Digits.ofNat at hds
  exact (List.cons.inj hds).2.symm

/-- The whole digits of a number are taken off, whatever follows but a digit. -/
theorem numberAfterSign_append (negative : Bool) {ds rest : List Char} (hds : IsWhole ds)
    (hrest : EndsDigits rest) : numberAfterSign negative (ds ++ rest) = afterWhole negative ds rest := by
  obtain ⟨hdigits, hzero⟩ := hds
  have hspan := hdigits.span_append hrest
  cases ds with
  | nil => exact absurd rfl hdigits.1
  | cons c ds =>
    by_cases hc : c = '0'
    · subst hc
      obtain rfl := hzero ds rfl
      cases rest with
      | nil => rfl
      | cons d rest =>
        simp only [numberAfterSign, List.cons_append, List.nil_append, if_true, hrest d rest rfl,
          Bool.false_eq_true, if_false]
    · have hdigit : Digits.isDigit c = true := hdigits.2 c (by simp)
      rw [List.cons_append] at hspan ⊢
      simp only [numberAfterSign, hc, hdigit, if_false, if_true, hspan]

/-- The digits of a number are read back as far as the text that follows. -/
theorem numberAfterSign_ofNat (negative : Bool) {n : Nat} (hn : n ≤ mostSignificand) {rest : List Char}
    (hrest : EndsNumber rest) :
    numberAfterSign negative (Digits.ofNat n ++ rest) = .ok (wholeNumber negative n, rest) := by
  rw [numberAfterSign_append negative (isWhole_ofNat n) hrest.endsDigits]
  exact afterWhole_ofNat negative hn hrest

/-! ## Documents -/

/-- Whether a whole number is in the range of 64 bits, taken with a sign below zero and without one above. -/
def WithinRange (n : Int) : Prop := -(twoTo 63 : Int) ≤ n ∧ n ≤ mostSignificand

instance (n : Int) : Decidable (WithinRange n) :=
  inferInstanceAs (Decidable (-(twoTo 63 : Int) ≤ n ∧ n ≤ mostSignificand))

/-- Times are such numbers. -/
theorem withinRange_of_fits {n : Int} (h : Time.fits n = true) : WithinRange n := by
  obtain ⟨hleast, hmost⟩ := Time.fits_iff.mp h
  exact ⟨hleast, Int.le_trans hmost (by decide)⟩

mutual

/-- A document whose numbers are whole and in the range of 64 bits. -/
def IsPlain : Json → Prop
  | .number (.whole n) => WithinRange n
  | .number _ => False
  | .list vs => ArePlainItems vs
  | .object ms => ArePlainMembers ms
  | _ => True

def ArePlainItems : List Json → Prop
  | [] => True
  | v :: vs => IsPlain v ∧ ArePlainItems vs

def ArePlainMembers : List (String × Json) → Prop
  | [] => True
  | (_, v) :: ms => IsPlain v ∧ ArePlainMembers ms

end

theorem arePlainItems_iff {vs : List Json} : ArePlainItems vs ↔ ∀ v ∈ vs, IsPlain v := by
  induction vs with
  | nil => simp [ArePlainItems]
  | cons v vs ih => simp [ArePlainItems, ih]

/-- A list has plain numbers when each of its values has. -/
theorem arePlainItems_map {α : Type} {write : α → Json} {vs : List α} (h : ∀ v ∈ vs, IsPlain (write v)) :
    ArePlainItems (vs.map write) := by
  rw [arePlainItems_iff, List.forall_mem_map]
  exact h

mutual

def decideIsPlain : (d : Json) → Decidable (IsPlain d)
  | .null | .flag _ | .text _ => .isTrue trivial
  | .number (.whole n) => inferInstanceAs (Decidable (WithinRange n))
  | .number (.double _) | .number (.single _) => .isFalse False.elim
  | .list vs => decideArePlainItems vs
  | .object ms => decideArePlainMembers ms

def decideArePlainItems : (vs : List Json) → Decidable (ArePlainItems vs)
  | [] => .isTrue trivial
  | v :: vs =>
    have := decideIsPlain v
    have := decideArePlainItems vs
    inferInstanceAs (Decidable (IsPlain v ∧ ArePlainItems vs))

def decideArePlainMembers : (ms : List (String × Json)) → Decidable (ArePlainMembers ms)
  | [] => .isTrue trivial
  | (_, v) :: ms =>
    have := decideIsPlain v
    have := decideArePlainMembers ms
    inferInstanceAs (Decidable (IsPlain v ∧ ArePlainMembers ms))

end

instance : DecidablePred IsPlain := decideIsPlain

theorem spells_whole {n : Int} (hn : WithinRange n) {rest : List Char} (hrest : EndsNumber rest) :
    Spells (.value (.number (.whole n))) (Digits.ofInt n ++ rest) rest := by
  obtain ⟨hleast, hmost⟩ := hn
  have hsmaller : twoTo 63 ≤ mostSignificand := by decide
  unfold Digits.ofInt
  split_ifs with hneg
  · have hwhole : wholeNumber true n.natAbs = .whole n := by
      have hrange : ¬ (n.natAbs = 0 ∨ twoTo 63 < n.natAbs) := by omega
      simp only [wholeNumber, if_true, if_neg hrange, JsonNumber.whole.injEq]
      omega
    refine .negative ?_
    rw [numberAfterSign_ofNat true (by omega) hrest, hwhole]
  · have hwhole : wholeNumber false n.natAbs = .whole n := by
      simp only [wholeNumber, Bool.false_eq_true, if_false, JsonNumber.whole.injEq]
      omega
    have hread := numberAfterSign_ofNat false (n := n.natAbs) (by omega) hrest
    obtain ⟨c, ds, hds, -⟩ := exists_digit_ofNat n.natAbs
    have hdigit : Digits.isDigit c = true := (areDigits_ofNat n.natAbs).2 c (by rw [hds]; simp)
    rw [hds, hwhole] at hread
    rw [hds]
    exact .number hdigit hread

theorem endsNumber_cons {c : Char} (rest : List Char)
    (h : Digits.isDigit c = false ∧ c ≠ '.' ∧ c ≠ 'e' ∧ c ≠ 'E') : EndsNumber (c :: rest) := by
  intro d tail hd
  obtain ⟨rfl, -⟩ := List.cons.inj hd
  exact h

/-! ## Parts of a text -/

/-- The text is one of the piece wherever a number may end behind it. -/
def Prints (p : Piece) (text : List Char) : Prop :=
  ∀ rest, EndsNumber rest → Spells p (text ++ rest) rest

/-- Blanks such as stand between tokens. -/
def AreBlank (gap : List Char) : Prop := ∀ c ∈ gap, isGap c = true

theorem areBlank_nil : AreBlank [] := by simp [AreBlank]

theorem AreBlank.gap {gap : List Char} (h : AreBlank gap) (rest : List Char) : Gap (gap ++ rest) rest :=
  ⟨gap, h, rfl⟩

/-- Parts with something between them: the first, and it before each of the others. -/
theorem separated_cons (separator part : List Char) (parts : List (List Char)) :
    separated separator (part :: parts) = part ++ parts.flatMap (separator ++ ·) := by
  induction parts generalizing part with
  | nil => simp [separated]
  | cons next parts ih => simp [separated, ih]

/-- A blank does not continue a number, nor does what may stand behind blanks. -/
theorem AreBlank.endsNumber {gap rest : List Char} (h : AreBlank gap) (hrest : EndsNumber rest) :
    EndsNumber (gap ++ rest) := by
  cases gap with
  | nil => exact hrest
  | cons c gap =>
    have hc : c = ' ' ∨ c = '\n' ∨ c = '\t' ∨ c = '\r' := by
      simpa [isGap, or_assoc] using h c List.mem_cons_self
    refine endsNumber_cons _ ?_
    rcases hc with rfl | rfl | rfl | rfl <;> decide

/-- What follows an item or a member: the others, each behind a comma, and the closing bracket. -/
def others (close : Char) (gap gap' : List Char) (parts : List (List Char)) (rest : List Char) : List Char :=
  parts.flatMap (',' :: gap ++ ·) ++ (gap' ++ close :: rest)

section Brackets

variable {gap gap' : List Char} (hgap : AreBlank gap) (hgap' : AreBlank gap')

/-- Neither a comma, a blank nor a closing bracket continues a number. -/
theorem endsNumber_others {close : Char}
    (hclose : Digits.isDigit close = false ∧ close ≠ '.' ∧ close ≠ 'e' ∧ close ≠ 'E') (gap : List Char)
    (hgap' : AreBlank gap') (parts : List (List Char)) (rest : List Char) :
    EndsNumber (others close gap gap' parts rest) := by
  cases parts with
  | nil => exact hgap'.endsNumber (endsNumber_cons rest hclose)
  | cons part parts => exact endsNumber_cons _ (by decide)

theorem others_cons (close : Char) (part : List Char) (parts : List (List Char)) (rest : List Char) :
    others close gap gap' (part :: parts) rest =
      ',' :: (gap ++ (part ++ others close gap gap' parts rest)) := by
  simp [others]

theorem separated_append_others (close : Char) (part : List Char) (parts : List (List Char))
    (rest : List Char) :
    gap ++ separated (',' :: gap) (part :: parts) ++ gap' ++ [close] ++ rest =
      gap ++ (part ++ others close gap gap' parts rest) := by
  simp [separated_cons, others]

include hgap hgap' in
theorem spells_items {vs : List Json} {parts : List (List Char)}
    (h : List.Forall₂ (fun v part => Prints (.value v) part) vs parts) (rest : List Char) :
    Spells (.items false vs) (others ']' gap gap' parts rest) rest := by
  induction h with
  | nil => exact .noItem (hgap'.gap _)
  | @cons v part vs parts hv _ ih =>
    have hpart := hv (others ']' gap gap' parts rest) (endsNumber_others (by decide) gap hgap' parts rest)
    rw [others_cons]
    exact .nextItem (.next (gap_refl _) (hgap.gap _)) hpart ih

include hgap hgap' in
theorem spells_members {ms : List (String × Json)} {parts : List (List Char)}
    (h : List.Forall₂ (fun m part => Prints (.member m.1 m.2) part) ms parts) (rest : List Char) :
    Spells (.members false ms) (others '\x7d' gap gap' parts rest) rest := by
  induction h with
  | nil => exact .noMember (hgap'.gap _)
  | @cons m part ms parts hm _ ih =>
    have hpart := hm (others '\x7d' gap gap' parts rest) (endsNumber_others (by decide) gap hgap' parts rest)
    rw [others_cons]
    exact .nextMember (.next (gap_refl _) (hgap.gap _)) hpart ih

include hgap hgap' in
/-- A list is printed by its items, with the same blanks before each and others before the bracket. -/
theorem prints_list {vs : List Json} {parts : List (List Char)}
    (h : List.Forall₂ (fun v part => Prints (.value v) part) vs parts) :
    Prints (.value (.list vs)) ('[' :: (gap ++ separated (',' :: gap) parts ++ gap' ++ [']'])) := by
  intro rest _
  refine .list ?_
  show Spells _ (gap ++ separated (',' :: gap) parts ++ gap' ++ [']'] ++ rest) rest
  cases h with
  | nil =>
    have heq : gap ++ separated (',' :: gap) [] ++ gap' ++ [']'] ++ rest = gap ++ (gap' ++ ']' :: rest) := by
      simp [separated]
    rw [heq]
    exact .noItem ((hgap.gap _).trans (hgap'.gap _))
  | @cons v part vs parts hv hvs =>
    have hpart := hv (others ']' gap gap' parts rest) (endsNumber_others (by decide) gap hgap' parts rest)
    rw [separated_append_others]
    exact .nextItem (.first (hgap.gap _)) hpart (spells_items hgap hgap' hvs rest)

include hgap hgap' in
theorem prints_object {ms : List (String × Json)} {parts : List (List Char)}
    (h : List.Forall₂ (fun m part => Prints (.member m.1 m.2) part) ms parts) :
    Prints (.value (.object ms)) ('\x7b' :: (gap ++ separated (',' :: gap) parts ++ gap' ++ ['\x7d'])) := by
  intro rest _
  refine .object ?_
  show Spells _ (gap ++ separated (',' :: gap) parts ++ gap' ++ ['\x7d'] ++ rest) rest
  cases h with
  | nil =>
    have heq : gap ++ separated (',' :: gap) [] ++ gap' ++ ['\x7d'] ++ rest = gap ++ (gap' ++ '\x7d' :: rest) := by
      simp [separated]
    rw [heq]
    exact .noMember ((hgap.gap _).trans (hgap'.gap _))
  | @cons m part ms parts hm hms =>
    have hpart := hm (others '\x7d' gap gap' parts rest) (endsNumber_others (by decide) gap hgap' parts rest)
    rw [separated_append_others]
    exact .nextMember (.first (hgap.gap _)) hpart (spells_members hgap hgap' hms rest)

end Brackets

theorem contents_token (s : String) (rest : List Char) :
    contents ((s.toList.flatMap escape ++ ['"']) ++ rest) = .ok (s, rest) := by
  rw [List.append_assoc]
  exact contents_escaped s rest

theorem prints_text (s : String) : Prints (.value (.text s)) (quoted s) := by
  intro rest _
  exact .text (contents_token s rest)

theorem prints_flag (b : Bool) : Prints (.value (.flag b)) (if b then "true" else "false").toList := by
  intro rest _
  cases b with
  | true => exact .trueWord
  | false => exact .falseWord

/-- A member is printed by its name and its value, with blanks behind the colon or none. -/
theorem prints_member (name : String) {v : Json} {gap part : List Char} (hgap : AreBlank gap)
    (hv : Prints (.value v) part) : Prints (.member name v) (quoted name ++ ':' :: (gap ++ part)) := by
  intro rest hrest
  have heq : quoted name ++ ':' :: (gap ++ part) ++ rest =
      '"' :: ((name.toList.flatMap escape ++ ['"']) ++ ':' :: (gap ++ (part ++ rest))) := by
    simp [quoted]
  rw [heq]
  exact .member (contents_token name _) (gap_refl _) (hgap.gap _) (hv rest hrest)

/-! ## The form without blanks -/

mutual

theorem prints_compact : ∀ (d : Json), IsPlain d → Prints (.value d) (compact d)
  | .null, _ => fun _ _ => .nullWord
  | .flag b, _ => prints_flag b
  | .number (.whole _), hd => fun _ hrest => spells_whole hd hrest
  | .number (.double _), hd => hd.elim
  | .number (.single _), hd => hd.elim
  | .text s, _ => prints_text s
  | .list vs, hd => by
    have h := prints_list areBlank_nil areBlank_nil (prints_compactItems vs hd)
    simpa [compact] using h
  | .object ms, hd => by
    have h := prints_object areBlank_nil areBlank_nil (prints_compactMembers ms hd)
    simpa [compact] using h

theorem prints_compactItems : ∀ (vs : List Json), ArePlainItems vs →
    List.Forall₂ (fun v part => Prints (.value v) part) vs (compactItems vs)
  | [], _ => .nil
  | v :: vs, h => .cons (prints_compact v h.1) (prints_compactItems vs h.2)

theorem prints_compactMembers : ∀ (ms : List (String × Json)), ArePlainMembers ms →
    List.Forall₂ (fun m part => Prints (.member m.1 m.2) part) ms (compactMembers ms)
  | [], _ => .nil
  | (name, v) :: ms, h =>
    .cons (prints_member name areBlank_nil (prints_compact v h.1)) (prints_compactMembers ms h.2)

end

/-- What prints a document is a text of it. -/
theorem Prints.isTextOf {d : Json} {text : List Char} (h : Prints (.value d) text) : IsTextOf text d := by
  have hend : EndsNumber [] := fun _ _ h => by cases h
  have hspells := h [] hend
  rw [List.append_nil] at hspells
  exact ⟨text, [], gap_refl _, hspells, gap_refl _⟩

/-- **What is printed is a text of the document.** -/
theorem isTextOf_compact {d : Json} (h : IsPlain d) : IsTextOf (compact d) d :=
  (prints_compact d h).isTextOf

end Waterfall.Json
