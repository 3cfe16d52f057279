import Mathlib.Data.List.Basic
import Mathlib.Data.List.Induction
import Waterfall.Proofs.Svg.Entities

/-!
# Replacing in turn and in one pass

Text is escaped by five replacements over the whole of it. That comes to one pass over its characters
(`inTurn_eq_onePass`), because no replacement touches what an earlier one wrote: its character does not
occur in the entities written so far. The order matters for this. Every entity begins with an ampersand,
so the ampersand comes first; after any other character it would be escaped twice.

From the one pass follows what makes escaped text safe in XML (`Escapes`): an ampersand in it begins an
entity, none of the other four characters is left, and the text can be read back.
-/

namespace Waterfall.Xml

/-! ## Tables of replacements -/

/-- What some characters are replaced by; of two entries for a character the first counts. -/
abbrev Replacements := List (Char × List Char)

namespace Replacements

/-- Each character replaced by what the table has for it. -/
def onePass (table : Replacements) (cs : List Char) : List Char :=
  cs.flatMap fun c => (table.lookup c).getD [c]

/-- The entries of the table applied one after another, each to the whole text. -/
def inTurn (table : Replacements) (cs : List Char) : List Char :=
  table.foldl (fun text e => replaceAll e.1 e.2 text) cs

/-- No entry replaces a character in what an earlier one wrote. -/
def Independent (table : Replacements) : Prop :=
  table.Pairwise fun earlier later => later.1 ∉ earlier.2

instance (table : Replacements) : Decidable table.Independent :=
  inferInstanceAs (Decidable (table.Pairwise fun earlier later => later.1 ∉ earlier.2))

theorem mem_of_lookup_eq_some {table : Replacements} {c : Char} {text : List Char}
    (h : table.lookup c = some text) : (c, text) ∈ table := by
  obtain ⟨before, after, rfl, -⟩ := List.lookup_eq_some_iff.mp h
  simp

theorem replaceAll_of_notMem {c : Char} {cs : List Char} (h : c ∉ cs) (text : List Char) :
    replaceAll c text cs = cs := by
  have hkept : ∀ d ∈ cs, (if d = c then text else [d]) = [d] := by
    intro d hd
    rw [if_neg]
    rintro rfl
    exact h hd
  rw [replaceAll, List.flatMap_congr hkept, List.flatMap_singleton']

/-- After a pass with some entries, replacing one more character gives the pass with one more entry. -/
theorem replaceAll_onePass {table : Replacements} {e : Char × List Char}
    (h : ∀ earlier ∈ table, e.1 ∉ earlier.2) (cs : List Char) :
    replaceAll e.1 e.2 (onePass table cs) = onePass (table ++ [e]) cs := by
  rw [replaceAll, onePass, List.flatMap_assoc]
  refine List.flatMap_congr fun c _ => ?_
  rw [List.lookup_append]
  cases hfound : table.lookup c with
  | some text =>
    -- What is already written is left alone.
    exact replaceAll_of_notMem (h (c, text) (mem_of_lookup_eq_some hfound)) e.2
  | none =>
    rw [List.lookup_cons]
    by_cases hc : c = e.1
    · simp [hc]
    · simp [hc, beq_false_of_ne hc]

/-- **Independent entries may be applied in turn or in one pass.** -/
theorem inTurn_eq_onePass {table : Replacements} (h : table.Independent) (cs : List Char) :
    inTurn table cs = onePass table cs := by
  induction table using List.reverseRecOn with
  | nil => simp [inTurn, onePass]
  | append_singleton table e ih =>
    obtain ⟨hearlier, -, hlast⟩ := List.pairwise_append.mp h
    have huntouched : ∀ earlier ∈ table, e.1 ∉ earlier.2 :=
      fun earlier hmem => hlast earlier hmem e List.mem_cons_self
    calc inTurn (table ++ [e]) cs = replaceAll e.1 e.2 (inTurn table cs) := by simp [inTurn]
      _ = replaceAll e.1 e.2 (onePass table cs) := by rw [ih hearlier]
      _ = onePass (table ++ [e]) cs := replaceAll_onePass huntouched cs

end Replacements

open Replacements (inTurn onePass)

/-! ## The five entities -/

/-- The characters that are escaped and their entities, in the order in which they are replaced. -/
def entities : Replacements :=
  [('&', "&amp;".toList), ('<', "&lt;".toList), ('>', "&gt;".toList), ('"', "&quot;".toList),
    ('\x27', "&apos;".toList)]

theorem independent_entities : entities.Independent := by decide

/-- With the ampersand second, the entity written first would be escaped again. -/
example : inTurn [('<', "&lt;".toList), ('&', "&amp;".toList)] "<".toList = "&amp;lt;".toList := by decide

theorem lookup_entities (c : Char) : entities.lookup c = entity? c := by
  unfold entity?
  split_ifs with hamp hlt hgt hquot hapos
  · subst hamp; rfl
  · subst hlt; rfl
  · subst hgt; rfl
  · subst hquot; rfl
  · subst hapos; rfl
  · rw [List.lookup_eq_none_iff]
    simp [entities, hamp, hlt, hgt, hquot, hapos]

theorem escape_eq_onePass (cs : List Char) : escape cs = onePass entities cs := by
  refine List.flatMap_congr fun c _ => ?_
  rw [escapeChar, lookup_entities]

theorem escapeInTurn_eq_onePass (cs : List Char) : escapeInTurn cs = onePass entities cs :=
  Replacements.inTurn_eq_onePass independent_entities cs

/-- An escaped character is the entity that the table has for it, or the character itself. -/
theorem escapeChar_cases (c : Char) :
    (c, escapeChar c) ∈ entities ∨ (escapeChar c = [c] ∧ ∀ e ∈ entities, c ≠ e.1) := by
  cases hfound : entity? c with
  | some text =>
    left
    have hwritten : escapeChar c = text := by rw [escapeChar, hfound]; rfl
    rw [hwritten]
    exact Replacements.mem_of_lookup_eq_some ((lookup_entities c).trans hfound)
  | none =>
    right
    refine ⟨by rw [escapeChar, hfound]; rfl, ?_⟩
    have hnone := List.lookup_eq_none_iff.mp ((lookup_entities c).trans hfound)
    exact fun e he => by simpa using hnone e he

/-- An entity begins with an ampersand and goes on with characters that are not escaped. -/
theorem shape_of_mem_entities {c : Char} {text : List Char} (h : (c, text) ∈ entities) :
    text = '&' :: text.tail ∧ ∀ d ∈ text.tail, ∀ e ∈ entities, d ≠ e.1 := by
  have hbegin : ∀ e ∈ entities, e.2 = '&' :: e.2.tail := by decide
  have hname : ∀ e ∈ entities, ∀ key ∈ entities, key.1 ∉ e.2.tail := by decide
  refine ⟨hbegin _ h, ?_⟩
  rintro d hd key hkey rfl
  exact hname _ h key hkey hd

/-! ## Escaped text -/

/-- Of the characters that are escaped only the ampersand is left. -/
theorem eq_ampersand_or_of_mem_escape {cs : List Char} {c : Char} (h : c ∈ escape cs) :
    c = '&' ∨ ∀ e ∈ entities, c ≠ e.1 := by
  obtain ⟨d, -, hc⟩ := List.mem_flatMap.mp h
  rcases escapeChar_cases d with hentity | ⟨hself, hd⟩
  · obtain ⟨heq, hname⟩ := shape_of_mem_entities hentity
    rw [heq] at hc
    rcases List.mem_cons.mp hc with hamp | hc
    · exact .inl hamp
    · exact .inr (hname c hc)
  · rw [hself] at hc
    rw [List.mem_singleton.mp hc]
    exact .inr hd

/-- An ampersand in an escaped character is the beginning of an entity, and nothing stands before it. -/
theorem mem_entities_of_escapeChar_eq {c : Char} {before name : List Char}
    (h : escapeChar c = before ++ '&' :: name) : before = [] ∧ (c, '&' :: name) ∈ entities := by
  have hkey : ('&', "&amp;".toList) ∈ entities := List.mem_cons_self
  rcases escapeChar_cases c with hentity | ⟨hself, hc⟩
  · cases before with
    | nil =>
      rw [h] at hentity
      exact ⟨rfl, hentity⟩
    | cons b before =>
      have hmem : '&' ∈ (escapeChar c).tail := by simp [h]
      exact absurd rfl ((shape_of_mem_entities hentity).2 '&' hmem _ hkey)
  · have hmem : '&' ∈ [c] := by simp [← hself, h]
    exact absurd (List.mem_singleton.mp hmem).symm (hc _ hkey)

/-- Where escaped text goes on with an ampersand, it goes on with an entity. -/
theorem exists_entity_of_escape_eq {cs before after : List Char} (h : escape cs = before ++ '&' :: after) :
    ∃ e ∈ entities, e.2 <+: '&' :: after := by
  induction cs generalizing before with
  | nil => simp [escape] at h
  | cons c rest ih =>
    rw [escape, List.flatMap_cons] at h
    rcases List.append_eq_append_iff.mp h with ⟨skipped, -, hrest⟩ | ⟨name, hchar, hafter⟩
    · exact ih hrest
    · -- What is left of the first character's form is empty or begins with the ampersand.
      cases name with
      | nil =>
        have hrest : escape rest = [] ++ '&' :: after := hafter.symm
        exact ih hrest
      | cons d name =>
        obtain ⟨rfl, rfl⟩ := List.cons.inj hafter
        exact ⟨_, (mem_entities_of_escapeChar_eq hchar).2, List.prefix_append ('&' :: name) _⟩

/-! ## Main statement -/

/-- What the escaped form of a text is like. -/
structure Escapes (text raw : List Char) : Prop where
  /-- The five replacements give it in turn, and in one pass. -/
  inTurn_eq : escapeInTurn text = raw
  onePass_eq : onePass entities text = raw
  unmarked : ∀ c ∈ raw, c ≠ '<' ∧ c ≠ '>' ∧ c ≠ '"' ∧ c ≠ '\x27'
  /-- An ampersand begins one of the five entities. -/
  entity : ∀ before after, raw = before ++ '&' :: after → ∃ e ∈ entities, e.2 <+: '&' :: after
  /-- It is read back, whether other ampersands are refused or stand for themselves. -/
  decode?_eq : decode? raw = some text
  unescape_eq : unescape raw = text

theorem escapes_escape (cs : List Char) : Escapes cs (escape cs) where
  inTurn_eq := by rw [escapeInTurn_eq_onePass, escape_eq_onePass]
  onePass_eq := (escape_eq_onePass cs).symm
  unmarked := by
    intro c hc
    rcases eq_ampersand_or_of_mem_escape hc with rfl | hkeys
    · decide
    · simpa [entities] using fun e he => hkeys e (List.mem_cons_of_mem _ he)
  entity _ _ := exists_entity_of_escape_eq
  decode?_eq := decode?_escape cs
  unescape_eq := unescape_of_decode?_eq_some (decode?_escape cs)

/-- **Escaping is exact.** The escaped form of every text is what the five replacements give one after
another, it holds ampersands only where an entity begins and none of the other four characters, and it is
read back as the text. So no two texts have the same form; and the form of a text is made of the forms of
its parts. -/
theorem escaping_exact :
    (∀ s : String, Escapes s.toList (escaped s).toList) ∧ Function.Injective escaped ∧
      ∀ s t : String, escaped (s ++ t) = escaped s ++ escaped t := by
  have hforms : ∀ s : String, Escapes s.toList (escaped s).toList := by
    intro s
    rw [escaped, String.toList_ofList]
    exact escapes_escape s.toList
  refine ⟨hforms, ?_, ?_⟩
  · intro s t heq
    have hback : some s.toList = some t.toList := by
      rw [← (hforms s).decode?_eq, ← (hforms t).decode?_eq, heq]
    exact String.toList_inj.mp (Option.some.inj hback)
  · intro s t
    rw [escaped, String.toList_append, escape_append, String.ofList_append]
    rfl

/-- An ampersand that is escaped already is escaped once more, and read back as it was. -/
example : escapeInTurn "&lt;\x27".toList = "&amp;lt;&apos;".toList ∧
    unescape "&amp;lt;&apos;".toList = "&lt;\x27".toList := by decide

end Waterfall.Xml
