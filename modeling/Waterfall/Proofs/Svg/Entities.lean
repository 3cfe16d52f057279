import Mathlib.Tactic.SplitIfs
import Waterfall.Svg.Style

/-!
# Raw text and what it denotes

Between tags and inside quoted values a character stands for itself or is written as one of the five
entities. `decode?` reads such raw text strictly: an ampersand that begins no entity is refused.

A raw text `Denotes` a value when it decodes to it and holds neither of the characters at which a reader
of tags stops, `<` and the double quote. Plain text denotes itself, escaped text denotes what was
escaped whatever its characters are, and a font family with its quotes as entities denotes the family.
-/

namespace Waterfall.Xml

/-- The text that raw text stands for, if each ampersand begins one of the five entities. -/
def decode? : List Char → Option (List Char)
  | '&' :: 'a' :: 'm' :: 'p' :: ';' :: rest => (decode? rest).map ('&' :: ·)
  | '&' :: 'l' :: 't' :: ';' :: rest => (decode? rest).map ('<' :: ·)
  | '&' :: 'g' :: 't' :: ';' :: rest => (decode? rest).map ('>' :: ·)
  | '&' :: 'q' :: 'u' :: 'o' :: 't' :: ';' :: rest => (decode? rest).map ('"' :: ·)
  | '&' :: 'a' :: 'p' :: 'o' :: 's' :: ';' :: rest => (decode? rest).map ('\x27' :: ·)
  | '&' :: _ => none
  | c :: rest => (decode? rest).map (c :: ·)
  | [] => some []

theorem decode?_cons_of_ne {c : Char} (h : c ≠ '&') (rest : List Char) :
    decode? (c :: rest) = (decode? rest).map (c :: ·) := by
  rw [decode?] <;> simp [h]

theorem unescape_cons_of_ne {c : Char} (h : c ≠ '&') (rest : List Char) :
    unescape (c :: rest) = c :: unescape rest := by
  rw [unescape] <;> simp [h]

/-- Where raw text is accepted, nothing is read differently from the lenient reading. -/
theorem unescape_of_decode?_eq_some {raw value : List Char} (h : decode? raw = some value) :
    unescape raw = value := by
  fun_induction decode? raw generalizing value with
  | case6 => simp at h
  | case7 c rest _ _ _ _ _ hamp ih =>
    obtain ⟨tail, htail, rfl⟩ := Option.map_eq_some_iff.mp h
    rw [unescape_cons_of_ne hamp, ih htail]
  | case8 => simpa [unescape] using h
  | _ rest ih =>
    obtain ⟨tail, htail, rfl⟩ := Option.map_eq_some_iff.mp h
    rw [unescape, ih htail]

/-- A character is read back from its escaped form. -/
theorem decode?_escapeChar_append (c : Char) (rest : List Char) :
    decode? (escapeChar c ++ rest) = (decode? rest).map (c :: ·) := by
  unfold escapeChar entity?
  split_ifs with hamp hlt hgt hquot hapos
  · subst hamp; rfl
  · subst hlt; rfl
  · subst hgt; rfl
  · subst hquot; rfl
  · subst hapos; rfl
  · exact decode?_cons_of_ne hamp rest

theorem decode?_escape (cs : List Char) : decode? (escape cs) = some cs := by
  induction cs with
  | nil => rfl
  | cons c rest ih =>
    rw [escape, List.flatMap_cons, decode?_escapeChar_append]
    exact congrArg (Option.map (c :: ·)) ih

theorem decode?_of_no_ampersand {cs : List Char} (h : ∀ c ∈ cs, c ≠ '&') : decode? cs = some cs := by
  induction cs with
  | nil => rfl
  | cons c rest ih =>
    rw [decode?_cons_of_ne (h c (by simp)), ih fun d hd => h d (by simp [hd])]
    rfl

/-! ## Denoting -/

/-- No character ends a tag, a quoted value or a text. -/
def Undelimited (cs : List Char) : Prop := ∀ c ∈ cs, c ≠ '<' ∧ c ≠ '"'

instance (cs : List Char) : Decidable (Undelimited cs) :=
  List.decidableBAll (fun c => c ≠ '<' ∧ c ≠ '"') cs

/-- The raw text stands for the value and ends nothing. -/
structure Denotes (raw value : String) : Prop where
  undelimited : Undelimited raw.toList
  decoded : decode? raw.toList = some value.toList

/-- No character of the text has a meaning of its own in text or in a quoted value. -/
def Plain (s : String) : Prop := ∀ c ∈ s.toList, c ≠ '&' ∧ c ≠ '<' ∧ c ≠ '"'

instance (s : String) : Decidable (Plain s) :=
  List.decidableBAll (fun c => c ≠ '&' ∧ c ≠ '<' ∧ c ≠ '"') s.toList

/-- No character of the text but the double quote has a meaning of its own in a quoted value. -/
def PlainButQuotes (s : String) : Prop := ∀ c ∈ s.toList, c ≠ '&' ∧ c ≠ '<'

instance (s : String) : Decidable (PlainButQuotes s) :=
  List.decidableBAll (fun c => c ≠ '&' ∧ c ≠ '<') s.toList

@[simp] theorem plain_append_iff {s t : String} : Plain (s ++ t) ↔ Plain s ∧ Plain t := by
  simp only [Plain, String.toList_append, List.mem_append]
  exact ⟨fun h => ⟨fun c hc => h c (.inl hc), fun c hc => h c (.inr hc)⟩,
    fun h c hc => hc.elim (h.1 c) (h.2 c)⟩

theorem Plain.join {parts : List String} (h : ∀ s ∈ parts, Plain s) : Plain (String.join parts) := by
  intro c hc
  rw [String.toList_join] at hc
  obtain ⟨cs, hcs, hc⟩ := List.mem_flatten.mp hc
  obtain ⟨s, hs, rfl⟩ := List.mem_map.mp hcs
  exact h s hs c hc

theorem Plain.denotes {s : String} (h : Plain s) : Denotes s s where
  undelimited c hc := (h c hc).2
  decoded := decode?_of_no_ampersand fun c hc => (h c hc).1

theorem ne_of_mem_escapeChar {c d : Char} (h : d ∈ escapeChar c) : d ≠ '<' ∧ d ≠ '"' := by
  unfold escapeChar entity? at h
  split_ifs at h with hamp hlt hgt hquot hapos
  · exact (by decide : Undelimited "&amp;".toList) d h
  · exact (by decide : Undelimited "&lt;".toList) d h
  · exact (by decide : Undelimited "&gt;".toList) d h
  · exact (by decide : Undelimited "&quot;".toList) d h
  · exact (by decide : Undelimited "&apos;".toList) d h
  · obtain rfl : d = c := by simpa using h
    exact ⟨hlt, hquot⟩

/-- **Escaping is safe and loses nothing.** -/
theorem denotes_escaped (s : String) : Denotes (escaped s) s where
  undelimited c hc := by
    rw [escaped, String.toList_ofList, escape] at hc
    obtain ⟨d, -, hd⟩ := List.mem_flatMap.mp hc
    exact ne_of_mem_escapeChar hd
  decoded := by rw [escaped, String.toList_ofList, decode?_escape]

/-- Quotes written as entities are read back where no other character needs one. -/
theorem decode?_replaceAll_quotes {cs : List Char} (h : ∀ c ∈ cs, c ≠ '&') :
    decode? (replaceAll '"' "&quot;".toList cs) = some cs := by
  induction cs with
  | nil => rfl
  | cons c rest ih =>
    have hrest := ih fun d hd => h d (by simp [hd])
    rw [replaceAll, List.flatMap_cons]
    by_cases hquot : c = '"'
    · subst hquot
      exact congrArg (Option.map ('"' :: ·)) hrest
    · rw [if_neg hquot, List.singleton_append, decode?_cons_of_ne (h c (by simp))]
      exact congrArg (Option.map (c :: ·)) hrest

theorem denotes_quotesEscaped {family : String} (h : PlainButQuotes family) :
    Denotes (StyleAttributes.quotesEscaped family) family where
  undelimited c hc := by
    rw [StyleAttributes.quotesEscaped, String.toList_ofList, replaceAll] at hc
    obtain ⟨d, hd, hc⟩ := List.mem_flatMap.mp hc
    split_ifs at hc with hquot
    · exact (by decide : Undelimited "&quot;".toList) c hc
    · obtain rfl : c = d := by simpa using hc
      exact ⟨(h c hd).2, hquot⟩
  decoded := by
    rw [StyleAttributes.quotesEscaped, String.toList_ofList]
    exact decode?_replaceAll_quotes fun c hc => (h c hc).1

end Waterfall.Xml
