import Waterfall.Number.Shortest

/-!
# The characters of number texts

Every text of a floating number, positional, with an exponent or with a fixed count of places, is made
of the same few characters: digits, signs, the point, and the letters of the exponent and of the words
for infinity and for no number.
-/

namespace Waterfall

/-- The characters that texts of numbers are made of. -/
def numberChars : List Char := "0123456789+-.einfNa".toList

/-- The characters are those of a number's text. -/
def OfNumberChars (cs : List Char) : Prop := ∀ c ∈ cs, c ∈ numberChars

instance (cs : List Char) : Decidable (OfNumberChars cs) := List.decidableBAll (· ∈ numberChars) cs

theorem OfNumberChars.append {as bs : List Char} (ha : OfNumberChars as) (hb : OfNumberChars bs) :
    OfNumberChars (as ++ bs) := fun c hc => (List.mem_append.mp hc).elim (ha c) (hb c)

theorem OfNumberChars.cons {c : Char} {cs : List Char} (hc : c ∈ numberChars) (h : OfNumberChars cs) :
    OfNumberChars (c :: cs) := by
  intro d hd
  rcases List.mem_cons.mp hd with rfl | hd
  · exact hc
  · exact h d hd

theorem OfNumberChars.sublist {as bs : List Char} (h : OfNumberChars bs) (hsub : as.Sublist bs) :
    OfNumberChars as := fun c hc => h c (hsub.subset hc)

theorem OfNumberChars.signed {body : List Char} (h : OfNumberChars body) (negative : Bool) :
    OfNumberChars (if negative then '-' :: body else body) := by
  split
  · exact .cons (by decide) h
  · exact h

theorem ofNumberChars_zeros (n : Nat) : OfNumberChars (List.replicate n '0') := by
  intro c hc
  obtain rfl := List.eq_of_mem_replicate hc
  decide

namespace Digits

theorem char_mem_numberChars (d : Nat) : char d ∈ numberChars := by
  have h : ∀ d : Fin 10, char d.1 ∈ numberChars := by decide
  have hd := h ⟨d % 10, Nat.mod_lt _ (by decide)⟩
  simpa [char, Nat.mod_mod] using hd

theorem ofNumberChars_ofNat (n : Nat) : OfNumberChars (ofNat n) := by
  induction n using Nat.strongRecOn with
  | ind n ih =>
    unfold ofNat
    split
    · exact .cons (char_mem_numberChars n) (by decide)
    · exact (ih (n / 10) (by omega)).append (.cons (char_mem_numberChars n) (by decide))

theorem ofNumberChars_ofInt (n : Int) : OfNumberChars (ofInt n) := by
  unfold ofInt
  split
  · exact .cons (by decide) (ofNumberChars_ofNat n.natAbs)
  · exact ofNumberChars_ofNat n.natAbs

end Digits

theorem ofNumberChars_pointBefore {digits : List Char} (h : OfNumberChars digits) (places : Nat) :
    OfNumberChars (pointBefore digits places) := by
  have hall := (ofNumberChars_zeros (places + 1 - digits.length)).append h
  unfold pointBefore
  split
  · exact hall
  · exact (hall.sublist (List.take_sublist ..)).append
      (.cons (by decide) (hall.sublist (List.drop_sublist ..)))

theorem Binary.ofNumberChars_fixed (places : Nat) (b : Binary) : OfNumberChars (b.fixed places) := by
  unfold Binary.fixed
  split
  · decide
  · split <;> decide
  · exact (ofNumberChars_pointBefore (Digits.ofNumberChars_ofNat _) places).signed _

namespace Shortest

theorem ofNumberChars_positional {digits : List Char} (h : OfNumberChars digits) (style : Style)
    (exponent : Int) : OfNumberChars (positional style digits exponent) := by
  unfold positional
  split
  · refine (h.append (ofNumberChars_zeros _)).append ?_
    split <;> decide
  · exact ofNumberChars_pointBefore h _

theorem ofNumberChars_withExponent {digits : List Char} (h : OfNumberChars digits) (lead : Int) :
    OfNumberChars (withExponent digits lead) := by
  have hexponent := Digits.ofNumberChars_ofNat lead.natAbs
  have htail : OfNumberChars ('e' :: (if lead < 0 then '-' else '+') :: Digits.ofNat lead.natAbs) := by
    refine .cons (by decide) (.cons ?_ hexponent)
    split <;> decide
  unfold withExponent
  split
  · refine OfNumberChars.append (.cons (h _ (by simp)) (.cons (by decide) ?_)) htail
    exact h.sublist (List.sublist_cons_self ..)
  · exact h.append htail

theorem ofNumberChars_text (style : Style) (p : Precision) (b : Binary) :
    OfNumberChars (text style p b) := by
  have hwrite : ∀ d, OfNumberChars (writeDecimal style d) := by
    intro d
    simp only [writeDecimal]
    split
    · exact ofNumberChars_positional (Digits.ofNumberChars_ofNat _) style _
    · exact ofNumberChars_withExponent (Digits.ofNumberChars_ofNat _) _
  unfold text
  split
  · decide
  · split <;> decide
  · refine OfNumberChars.signed ?_ _
    split
    · exact ofNumberChars_positional (by decide) style 0
    · exact hwrite _

end Shortest

/-- A single with two places is made of these characters. -/
theorem ofNumberChars_twoPlaces (x : Float32) : OfNumberChars (twoPlaces x).toList := by
  rw [twoPlaces, String.toList_ofList]
  exact Binary.ofNumberChars_fixed 2 _

theorem ofNumberChars_textOfSingle (x : Float32) : OfNumberChars (textOfSingle x).toList := by
  rw [textOfSingle, String.toList_ofList]
  exact Shortest.ofNumberChars_text .plain .single _

end Waterfall
