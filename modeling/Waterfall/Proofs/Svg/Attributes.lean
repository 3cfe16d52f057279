import Mathlib.Algebra.GroupWithZero.Nat
import Mathlib.Algebra.Order.BigOperators.Group.List
import Mathlib.Algebra.Order.Group.Nat
import Waterfall.Proofs.Svg.Document

/-!
# Attributes that are read back

A colour is written between quotes as it is, and of a font family only the quotes are written as
entities. So not every value survives: a quote in a colour ends the value and can begin another attribute,
and an ampersand begins an entity that was never meant.

Which values survive is decided by counting characters. Raw text that denotes a value is at least as
long as the value with each `&`, `<` and quote as its entity (`Denotes.leastLength_le`), and what is
written is at most that long. So if the text is read back, nothing in it was longer than it is written,
and the values have no character that needed an entity and got none (`Inert`).
-/

namespace Waterfall

namespace Xml

/-! ## How long raw text has to be -/

/-- The least number of characters that stand for a character in a quoted value. -/
def leastCost (c : Char) : Nat :=
  if c = '&' then 5 else if c = '<' then 4 else if c = '"' then 6 else 1

/-- The least number of characters that stand for a text in a quoted value. -/
def leastLength (s : String) : Nat := (s.toList.map leastCost).sum

theorem sum_leastCost_le {raw value : List Char} (hdecode : decode? raw = some value) (hraw : Undelimited raw) :
    (value.map leastCost).sum ≤ raw.length := by
  fun_induction decode? raw generalizing value with
  | case6 => simp at hdecode
  | case7 c rest _ _ _ _ _ hamp ih =>
    -- A character that stands for itself is none of those that end a value.
    obtain ⟨tail, htail, rfl⟩ := Option.map_eq_some_iff.mp hdecode
    have hcost : leastCost c = 1 := by
      obtain ⟨hlt, hquot⟩ := hraw c (by simp)
      rw [leastCost, if_neg hamp, if_neg hlt, if_neg hquot]
    have hrest := ih htail fun d hd => hraw d (by simp [hd])
    simp only [List.map_cons, List.sum_cons, List.length_cons, hcost]
    omega
  | case8 =>
    obtain rfl : value = [] := by simpa using hdecode.symm
    exact Nat.le_refl 0
  | _ rest ih =>
    obtain ⟨tail, htail, rfl⟩ := Option.map_eq_some_iff.mp hdecode
    have hrest := ih htail fun d hd => hraw d (by simp [hd])
    simp only [List.map_cons, List.sum_cons, List.length_cons, leastCost]
    simp
    omega

theorem Denotes.leastLength_le {raw value : String} (h : Denotes raw value) :
    leastLength value ≤ raw.length := by
  rw [← String.length_toList]
  exact sum_leastCost_le h.decoded h.undelimited

/-- A text that is as long as raw text for it has to be holds no character that would need more. -/
theorem costs_eq_of_sum_le (cost : Char → Nat) {cs : List Char} (hle : ∀ c ∈ cs, cost c ≤ leastCost c)
    (hsum : (cs.map leastCost).sum ≤ (cs.map cost).sum) : ∀ c ∈ cs, cost c = leastCost c := by
  intro c hc
  by_contra hne
  have hlt := List.sum_lt_sum cost leastCost hle ⟨c, hc, Nat.lt_of_le_of_ne (hle c hc) hne⟩
  omega

theorem one_le_leastCost (c : Char) : 1 ≤ leastCost c := by
  unfold leastCost
  split_ifs <;> omega

theorem length_le_leastLength (s : String) : s.length ≤ leastLength s := by
  have hsum := List.sum_le_sum (l := s.toList) fun c _ => one_le_leastCost c
  simpa [leastLength, ← String.length_toList] using hsum

/-- Written as it is, a text is long enough only if it is plain. -/
theorem plain_of_leastLength_le {s : String} (h : leastLength s ≤ s.length) : Plain s := by
  have hcosts := costs_eq_of_sum_le (fun _ => 1) (fun c (_ : c ∈ s.toList) => one_le_leastCost c)
    (by simpa [leastLength, ← String.length_toList] using h)
  intro c hc
  refine ⟨?_, ?_, ?_⟩ <;> rintro rfl <;> exact absurd (hcosts _ hc) (by decide)

/-- The number of characters that a character of a font family is written with. -/
def familyCost (c : Char) : Nat := if c = '"' then 6 else 1

theorem familyCost_le (c : Char) : familyCost c ≤ leastCost c := by
  unfold familyCost leastCost
  split_ifs <;> simp_all

theorem length_quotesEscaped (family : String) :
    (StyleAttributes.quotesEscaped family).length = (family.toList.map familyCost).sum := by
  rw [StyleAttributes.quotesEscaped, String.length_ofList, replaceAll, List.length_flatMap]
  refine congrArg List.sum (List.map_congr_left fun c _ => ?_)
  unfold familyCost
  split <;> rfl

theorem length_quotesEscaped_le (family : String) :
    (StyleAttributes.quotesEscaped family).length ≤ leastLength family := by
  rw [length_quotesEscaped]
  exact List.sum_le_sum fun c _ => familyCost_le c

/-- With its quotes as entities, a font family is long enough only if it is plain but for them. -/
theorem plainButQuotes_of_leastLength_le {family : String}
    (h : leastLength family ≤ (StyleAttributes.quotesEscaped family).length) : PlainButQuotes family := by
  have hcosts := costs_eq_of_sum_le familyCost (fun c _ => familyCost_le c)
    (by rwa [length_quotesEscaped] at h)
  intro c hc
  refine ⟨?_, ?_⟩ <;> rintro rfl <;> exact absurd (hcosts _ hc) (by decide)

/-! ## Attributes in a text -/

/-- The text is a sequence of well-formed attributes that have these values, with no name coming twice. -/
def IsAttributes (text : String) (attributes : List (String × String)) : Prop :=
  ∃ raws, AttributesDenote raws attributes ∧ text = inTag raws

/-- In any start tag, the text adds these attributes and nothing else. -/
theorem IsAttributes.run {text : String} {attributes : List (String × String)} (h : IsAttributes text attributes)
    (current : Element) (outer : List Element) (name : String) (seen : List (String × String))
    (hnodup : ((seen ++ attributes).map Prod.fst).Nodup) :
    Reader.run ⟨current, outer, .inTag name seen⟩ text.toList =
      some ⟨current, outer, .inTag name (seen ++ attributes)⟩ := by
  obtain ⟨raws, hdenote, rfl⟩ := h
  exact Reader.run_attributes hdenote.each hnodup

/-- No text has two lists of attributes. -/
theorem IsAttributes.unique {text : String} {attributes attributes' : List (String × String)}
    (h : IsAttributes text attributes) (h' : IsAttributes text attributes') : attributes = attributes' := by
  obtain ⟨raws, hdenote, -⟩ := id h
  obtain ⟨raws', hdenote', -⟩ := id h'
  have hrun := h.run { name := "" } [] "" [] hdenote.distinct
  rw [h'.run { name := "" } [] "" [] hdenote'.distinct] at hrun
  simpa using hrun.symm

theorem length_inTag (attributes : List (String × String)) :
    (inTag attributes).length = (attributes.map fun x => x.1.length + x.2.length + 4).sum := by
  induction attributes with
  | nil => rfl
  | cons x rest ih =>
    have hlength : (StyleAttributes.inTag x.1 x.2).length = x.1.length + x.2.length + 4 := by
      rw [← String.length_toList, toList_attribute]
      simp only [List.length_cons, List.length_append, List.length_nil, String.length_toList]
      omega
    rw [inTag_cons, String.length_append, ih, hlength, List.map_cons, List.sum_cons]

end Xml

/-! ## The attributes of a style -/

open Xml (leastLength IsAttributes)

namespace StyleAttributes

variable {a b : StyleAttributes}

theorem toSvg_eq_inTag (a : StyleAttributes) : a.toSvg = Xml.inTag a.toList := rfl

theorem isAttributes_toSvg (h : a.Inert) : IsAttributes a.toSvg a.values := by
  refine ⟨a.toList, ⟨forall₂_toList_values h, ?_⟩, toSvg_eq_inTag a⟩
  exact (by decide : names.Nodup).sublist a.keys_values_sublist

/-- With distinct names an attribute is found under its name exactly if it is set. -/
theorem lookup_given {settings : List (String × Option String)} (h : (settings.map Prod.fst).Nodup)
    {name : String} {value : Option String} (hmem : (name, value) ∈ settings) :
    (given settings).lookup name = value := by
  induction settings with
  | nil => cases hmem
  | cons setting rest ih =>
    obtain ⟨first, own⟩ := setting
    obtain ⟨hnew, hrest⟩ := List.nodup_cons.mp h
    rcases List.mem_cons.mp hmem with heq | hlater
    · obtain ⟨rfl, rfl⟩ := Prod.mk.inj heq
      cases value with
      | none =>
        refine List.lookup_eq_none_iff.mpr fun p hp => ?_
        have hp' := (keys_given_sublist rest).subset (List.mem_map_of_mem hp)
        simpa using fun heq : name = p.1 => hnew (heq ▸ hp')
      | some s => exact List.lookup_cons_self
    · have hkey : name ∈ rest.map Prod.fst := List.mem_map_of_mem hlater
      have hne : (name == first) = false := by
        simpa using fun heq : name = first => hnew (heq ▸ hkey)
      cases own with
      | none => exact ih hrest hlater
      | some s =>
        have hgiven : given ((first, some s) :: rest) = (first, s) :: given rest := rfl
        rw [hgiven, List.lookup_cons, hne]
        exact ih hrest hlater

/-- The values that are set are found under their names. -/
theorem lookup_values (a : StyleAttributes) : a.values.lookup "fill" = a.fill ∧
    a.values.lookup "stroke" = a.stroke ∧ a.values.lookup "font-family" = a.fontFamily := by
  have hnodup : (a.settings.map Prod.fst).Nodup := (by decide : names.Nodup)
  refine ⟨lookup_given hnodup ?_, lookup_given hnodup ?_, lookup_given hnodup ?_⟩ <;> simp [settings]

/-! ## How long the text is -/

/-- The length of an attribute, if it is set, when its value is written with so many characters. -/
def attrLength (length : String → Nat) (name : String) (value : Option String) : Nat :=
  (value.map fun s => name.length + length s + 4).getD 0

/-- The length of the attributes that are set. -/
def attrsLength (length : String → Nat) (settings : List (String × Option String)) : Nat :=
  ((given settings).map fun x => x.1.length + length x.2 + 4).sum

theorem attrsLength_nil (length : String → Nat) : attrsLength length [] = 0 := rfl

theorem attrsLength_cons (length : String → Nat) (name : String) (value : Option String)
    (rest : List (String × Option String)) :
    attrsLength length ((name, value) :: rest) = attrLength length name value + attrsLength length rest := by
  cases value with
  | none => exact (Nat.zero_add _).symm
  | some s => rfl

theorem attrLength_le {name : String} {value value' : Option String} {length length' : String → Nat}
    (h : Option.Rel (fun s t => length s ≤ length' t) value value') :
    attrLength length name value ≤ attrLength length' name value' := by
  cases h with
  | none => exact Nat.le_refl 0
  | some h =>
    simp only [attrLength, Option.map_some, Option.getD_some]
    omega

/-- The attributes that can be set, as their values are written. -/
def written (a : StyleAttributes) : List (String × Option String) :=
  [("fill", a.fill), ("stroke", a.stroke), ("stroke-width", a.strokeWidth.map textOfSingle),
   ("opacity", a.opacity.map textOfSingle), ("font-size", a.fontSize.map textOfSingle),
   ("font-family", a.fontFamily.map quotesEscaped)]

theorem length_toSvg (a : StyleAttributes) : a.toSvg.length = attrsLength String.length a.written :=
  Xml.length_inTag a.toList

/-- Text that is read back as the attributes is long enough for each of them. -/
theorem attrsLength_le_of_isAttributes {text : String} (h : IsAttributes text a.values) :
    attrsLength leastLength a.settings ≤ text.length := by
  obtain ⟨raws, hdenote, rfl⟩ := h
  rw [Xml.length_inTag]
  refine List.Forall₂.sum_le_sum ?_
  refine List.forall₂_map_left_iff.mpr (List.forall₂_map_right_iff.mpr (hdenote.each.imp ?_).flip)
  intro raw parsed hraw
  obtain ⟨hkey, -, hvalue⟩ := hraw
  have := hvalue.leastLength_le
  show parsed.1.length + leastLength parsed.2 + 4 ≤ raw.1.length + raw.2.length + 4
  rw [hkey]
  omega

/-- Attributes that are read back are inert: each of them is as long as it has to be. -/
theorem inert_of_isAttributes (h : IsAttributes a.toSvg a.values) : a.Inert := by
  have hlength := attrsLength_le_of_isAttributes h
  rw [length_toSvg] at hlength
  have hsame : ∀ name value, attrLength String.length name value ≤ attrLength leastLength name value := by
    intro name value
    refine attrLength_le ?_
    cases value with
    | none => exact .none
    | some s => exact .some (Xml.length_le_leastLength s)
  have hfamily : attrLength String.length "font-family" (a.fontFamily.map quotesEscaped) ≤
      attrLength leastLength "font-family" a.fontFamily := by
    refine attrLength_le ?_
    cases a.fontFamily with
    | none => exact .none
    | some s => exact .some (Xml.length_quotesEscaped_le s)
  simp only [settings, written, attrsLength_cons, attrsLength_nil] at hlength
  -- None of them is longer than it has to be, and together they are at least that long.
  have hfill := hsame "fill" a.fill
  have hstroke := hsame "stroke" a.stroke
  have hwidth := hsame "stroke-width" (a.strokeWidth.map textOfSingle)
  have hopacity := hsame "opacity" (a.opacity.map textOfSingle)
  have hsize := hsame "font-size" (a.fontSize.map textOfSingle)
  have hfillEq : attrLength leastLength "fill" a.fill ≤ attrLength String.length "fill" a.fill := by omega
  have hstrokeEq : attrLength leastLength "stroke" a.stroke ≤ attrLength String.length "stroke" a.stroke := by
    omega
  have hfamilyEq : attrLength leastLength "font-family" a.fontFamily ≤
    attrLength String.length "font-family" (a.fontFamily.map quotesEscaped) := by omega
  refine ⟨fun s hs => ?_, fun s hs => ?_, fun s hs => ?_⟩
  · rw [Option.mem_def.mp hs] at hfillEq
    exact Xml.plain_of_leastLength_le (by simpa [attrLength] using hfillEq)
  · rw [Option.mem_def.mp hs] at hstrokeEq
    exact Xml.plain_of_leastLength_le (by simpa [attrLength] using hstrokeEq)
  · rw [Option.mem_def.mp hs] at hfamilyEq
    exact Xml.plainButQuotes_of_leastLength_le (by simpa [attrLength] using hfamilyEq)

/-! ## Main statement -/

/-- What is left of the attributes in their text. -/
structure InText (a : StyleAttributes) : Prop where
  isAttributes_iff : IsAttributes a.toSvg a.values ↔ a.Inert
  values : a.values.lookup "fill" = a.fill ∧ a.values.lookup "stroke" = a.stroke ∧
    a.values.lookup "font-family" = a.fontFamily
  /-- In any start tag, inert attributes add themselves and nothing else. -/
  run : a.Inert → ∀ current outer name seen, ((seen ++ a.values).map Prod.fst).Nodup →
    Xml.Reader.run ⟨current, outer, .inTag name seen⟩ a.toSvg.toList =
      some ⟨current, outer, .inTag name (seen ++ a.values)⟩
  apart : a.Inert → ∀ b : StyleAttributes, b.Inert → a.toSvg = b.toSvg →
    a.fill = b.fill ∧ a.stroke = b.stroke ∧ a.fontFamily = b.fontFamily

/-- **Attributes are read back exactly if they are inert.** Colours without `&`, `<` and quotes and a font
family without `&` and `<` are read back: the text is a sequence of well-formed attributes with just these
values, in any tag, and no others of the kind are written alike. With any other colour or family the text is
no sequence of attributes with these values. -/
theorem readBack_iff_inert (a : StyleAttributes) : a.InText where
  isAttributes_iff := ⟨inert_of_isAttributes, isAttributes_toSvg⟩
  values := lookup_values a
  run h current outer name seen := (isAttributes_toSvg h).run current outer name seen
  apart h b hb hsame := by
    have hvalues : a.values = b.values := by
      refine (isAttributes_toSvg h).unique ?_
      rw [hsame]
      exact isAttributes_toSvg hb
    obtain ⟨hfill, hstroke, hfamily⟩ := lookup_values a
    rw [← hfill, ← hstroke, ← hfamily, hvalues]
    exact lookup_values b

/-- A colour that ends its value and goes on with another attribute. -/
def doubleColor : StyleAttributes := { fill := some "red\" stroke=\"blue" }

/-- Two colours for two attributes. -/
def twoColors : StyleAttributes := { fill := some "red", stroke := some "blue" }

/-- The one colour is written like the two, and read as the two. A quote in a font family is written like
the entity itself. -/
theorem doubleColor_read_as_twoColors :
    doubleColor.toSvg = twoColors.toSvg ∧ ¬ IsAttributes doubleColor.toSvg doubleColor.values ∧
      IsAttributes doubleColor.toSvg twoColors.values ∧
      ({ fontFamily := some "a\"b" } : StyleAttributes).toSvg =
        ({ fontFamily := some "a&quot;b" } : StyleAttributes).toSvg := by
  have hsame : doubleColor.toSvg = twoColors.toSvg := by
    simp [toSvg, toList, inTag, doubleColor, twoColors]
  have htwo : twoColors.Inert := by
    constructor <;> decide
  refine ⟨hsame, fun h => ?_, ?_, ?_⟩
  · exact absurd ((inert_of_isAttributes h).fill _ rfl) (by decide)
  · rw [hsame]
    exact isAttributes_toSvg htwo
  · decide

end StyleAttributes

end Waterfall
