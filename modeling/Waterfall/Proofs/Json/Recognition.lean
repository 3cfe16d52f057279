import Mathlib.Data.List.TakeDrop
import Mathlib.Data.List.TakeWhile
import Waterfall.Proofs.Json.Reading

/-!
# Every text that is read is a text of a document

The converse of reading: `ofText` accepts no text but those of documents whose nesting stays within the
limit (`ofText_eq_ok_iff`). A token is what a reader of tokens takes off the text, so each of them leaves a
later part of its text; the reader of values is taken apart along its own branches.
-/

namespace Waterfall.Json

/-! ## Tokens end where the text goes on -/

theorem suffix_of_contentsFrom {passed : Nat} {cs chs rest : List Char}
    (h : contentsFrom passed cs = .ok (chs, rest)) : rest <:+ cs := by
  induction cs generalizing passed chs with
  | nil => simp [contentsFrom] at h
  | cons c cs ih =>
    cases passed with
    | succ passed => exact (ih h).trans (List.suffix_cons c cs)
    | zero =>
      simp only [contentsFrom] at h
      split_ifs at h with hquote hslash hcontrol
      · obtain ⟨-, rfl⟩ := Prod.mk.inj (Except.ok.inj h)
        exact List.suffix_cons c cs
      · split at h
        · cases h
        · split at h
          · cases h
          next hinner =>
            obtain ⟨-, rfl⟩ := Prod.mk.inj (Except.ok.inj h)
            exact (ih hinner).trans (List.suffix_cons c cs)
      · split at h
        · cases h
        next hinner =>
          obtain ⟨-, rfl⟩ := Prod.mk.inj (Except.ok.inj h)
          exact (ih hinner).trans (List.suffix_cons c cs)

theorem exists_token_of_contents {cs rest : List Char} {s : String} (h : contents cs = .ok (s, rest)) :
    ∃ token, cs = token ++ rest := by
  unfold contents at h
  split at h
  · cases h
  next hfrom =>
    obtain ⟨-, rfl⟩ := Prod.mk.inj (Except.ok.inj h)
    obtain ⟨token, htoken⟩ := suffix_of_contentsFrom hfrom
    exact ⟨token, htoken.symm⟩

section Numbers

variable {negative : Bool} {significand : Nat} {power : Int} {cs rest : List Char} {n : JsonNumber}

theorem suffix_of_scaled (h : scaled negative significand power cs = .ok (n, rest)) : rest <:+ cs := by
  unfold scaled at h
  split at h
  · obtain ⟨-, rfl⟩ := Prod.mk.inj (Except.ok.inj h)
    exact List.suffix_refl _
  · cases h

theorem suffix_of_exponentSign (cs : List Char) : (exponentSign cs).2 <:+ cs := by
  unfold exponentSign
  split
  · exact List.suffix_cons _ _
  · exact List.suffix_cons _ _
  · exact List.suffix_refl _

theorem suffix_of_exponent? {afterLetter : List Char} (h : exponent? cs = some afterLetter) :
    afterLetter <:+ cs := by
  unfold exponent? at h
  split at h
  · obtain rfl := Option.some.inj h
    exact List.suffix_cons _ _
  · obtain rfl := Option.some.inj h
    exact List.suffix_cons _ _
  · cases h

theorem suffix_of_span (p : Char → Bool) (cs : List Char) : (cs.span p).2 <:+ cs := by
  rw [List.span_eq_takeWhile_dropWhile]
  exact List.dropWhile_suffix p

theorem suffix_of_withExponent (h : withExponent negative significand power cs = .ok (n, rest)) :
    rest <:+ cs := by
  have hsuffix := (suffix_of_span Digits.isDigit (exponentSign cs).2).trans (suffix_of_exponentSign cs)
  simp only [withExponent] at h
  split_ifs at h
  · split at h <;> cases h
  · obtain ⟨-, rfl⟩ := Prod.mk.inj (Except.ok.inj h)
    exact hsuffix
  · exact (suffix_of_scaled h).trans hsuffix
  · exact (suffix_of_scaled h).trans hsuffix

theorem suffix_of_withFraction (h : withFraction negative significand power cs = .ok (n, rest)) :
    rest <:+ cs := by
  have hsuffix := suffix_of_span Digits.isDigit cs
  simp only [withFraction] at h
  split_ifs at h
  · split at h <;> cases h
  · split at h
    next hletter =>
      exact (suffix_of_withExponent h).trans ((suffix_of_exponent? hletter).trans hsuffix)
    next => exact (suffix_of_scaled h).trans hsuffix

theorem suffix_of_afterWhole {ds : List Char} (h : afterWhole negative ds cs = .ok (n, rest)) :
    rest <:+ cs := by
  simp only [afterWhole] at h
  split at h
  · exact (suffix_of_withFraction h).trans (List.suffix_cons _ _)
  · split at h
    next hletter => exact (suffix_of_withExponent h).trans (suffix_of_exponent? hletter)
    next =>
      split_ifs at h
      · obtain ⟨-, rfl⟩ := Prod.mk.inj (Except.ok.inj h)
        exact List.suffix_refl _
      · exact suffix_of_scaled h

/-- A number takes its first digit at least. -/
theorem exists_token_of_numberAfterSign (h : numberAfterSign negative cs = .ok (n, rest)) :
    ∃ digit token, cs = digit :: (token ++ rest) := by
  unfold numberAfterSign at h
  cases cs with
  | nil => cases h
  | cons digit cs =>
    have hsuffix : rest <:+ cs := by
      simp only at h
      split_ifs at h with hzero hdigit
      · split at h
        · split_ifs at h
          exact suffix_of_afterWhole h
        · exact suffix_of_afterWhole h
      · have hspan := suffix_of_span Digits.isDigit cs
        rw [List.span_eq_takeWhile_dropWhile] at h hspan
        rw [List.dropWhile_cons_of_pos hdigit] at h
        exact (suffix_of_afterWhole h).trans hspan
    obtain ⟨token, rfl⟩ := hsuffix
    exact ⟨digit, token, rfl⟩

end Numbers

/-! ## Steps of the readers -/

theorem bind_eq_ok {α β : Type} {reader : Reader α} {next : α → Reader β} {cs rest : List Char} {b : β}
    (h : (reader >>= next) cs = .ok (b, rest)) :
    ∃ a mid, reader cs = .ok (a, mid) ∧ next a mid = .ok (b, rest) := by
  simp only [bind, StateT.bind, Except.bind] at h
  split at h
  · cases h
  next result hreader => exact ⟨result.1, result.2, hreader, h⟩

theorem bind_pure_eq_ok {α β : Type} {reader : Reader α} {f : α → β} {cs rest : List Char} {b : β}
    (h : (reader >>= fun a => pure (f a)) cs = .ok (b, rest)) :
    ∃ a, reader cs = .ok (a, rest) ∧ f a = b := by
  obtain ⟨a, mid, hreader, h⟩ := bind_eq_ok h
  obtain ⟨rfl, rfl⟩ := Prod.mk.inj (Except.ok.inj h)
  exact ⟨a, hreader, rfl⟩

theorem gap_skipGap (cs : List Char) : Gap cs (skipGap cs) :=
  ⟨cs.takeWhile isGap, fun _ hc => List.mem_takeWhile_imp hc, (List.takeWhile_append_dropWhile).symm⟩

theorem gap_of_skipGap_eq {cs rest : List Char} (h : skipGap cs = rest) : Gap cs rest := h ▸ gap_skipGap cs

theorem Ahead.trans_gap {first : Bool} {cs mid start : List Char} (h : Ahead first cs mid)
    (hgap : Gap mid start) : Ahead first cs start := by
  cases h with
  | first h => exact .first (h.trans hgap)
  | next hcomma h => exact .next hcomma (h.trans hgap)

theorem eq_append_of_word {w cs rest : List Char} (h : word w cs = .ok ((), rest)) : cs = w ++ rest := by
  induction w generalizing cs with
  | nil => exact (Prod.mk.inj (Except.ok.inj h)).2
  | cons c w ih =>
    cases cs with
    | nil => cases h
    | cons d cs =>
      simp only [word] at h
      split_ifs at h with hd
      rw [hd, ih h, List.cons_append]

theorem ahead_of_moreItems {first : Bool} {cs start : List Char} (h : moreItems first cs = .ok (true, start)) :
    Ahead first cs start := by
  unfold moreItems at h
  split at h
  · cases h
  · cases h
  next c rest _ hskip =>
    split_ifs at h with hfirst hcomma
    · obtain ⟨-, rfl⟩ := Prod.mk.inj (Except.ok.inj h)
      subst hfirst
      exact .first (gap_of_skipGap_eq hskip)
    · subst hcomma
      split at h
      · cases h
      · cases h
      next =>
        obtain ⟨-, rfl⟩ := Prod.mk.inj (Except.ok.inj h)
        obtain rfl : first = false := by simpa using hfirst
        exact .next (gap_of_skipGap_eq hskip) (gap_skipGap rest)

theorem end_of_moreItems {first : Bool} {cs mid : List Char} (h : moreItems first cs = .ok (false, mid)) :
    ∃ rest, mid = ']' :: rest ∧ Gap cs (']' :: rest) := by
  unfold moreItems at h
  split at h
  · cases h
  next rest hskip =>
    obtain ⟨-, rfl⟩ := Prod.mk.inj (Except.ok.inj h)
    exact ⟨rest, rfl, gap_of_skipGap_eq hskip⟩
  next c rest _ hskip =>
    split_ifs at h with hfirst hcomma
    · cases h
    · split at h <;> cases h

/-- A name is what its string says. -/
theorem exists_name_of_map_contents {key : Option String} {token rest : List Char}
    {named : String × List Char → Option String × List Char}
    (hnamed : ∀ s rest, named (s, rest) = (some s, rest))
    (h : (contents token).map named = .ok (key, rest)) :
    ∃ name, key = some name ∧ contents token = .ok (name, rest) := by
  cases hcontents : contents token with
  | error e =>
    rw [hcontents] at h
    cases h
  | ok result =>
    obtain ⟨name, after⟩ := result
    rw [hcontents] at h
    obtain ⟨rfl, rfl⟩ := Prod.mk.inj ((hnamed name after).symm.trans (Except.ok.inj h))
    exact ⟨name, rfl, rfl⟩

theorem ahead_of_nextKey {first : Bool} {cs afterName : List Char} {name : String}
    (h : nextKey first cs = .ok (some name, afterName)) :
    ∃ token, Ahead first cs ('"' :: token) ∧ contents token = .ok (name, afterName) := by
  unfold nextKey at h
  split at h
  · cases h
  · cases h
  next c rest _ hskip =>
    split_ifs at h with hfirst hquote hcomma
    · subst hfirst hquote
      obtain ⟨_, hname, hcontents⟩ := exists_name_of_map_contents (fun _ _ => rfl) h
      obtain rfl := Option.some.inj hname
      exact ⟨rest, .first (gap_of_skipGap_eq hskip), hcontents⟩
    · subst hcomma
      obtain rfl : first = false := by simpa using hfirst
      split at h
      · cases h
      next token hnext =>
        obtain ⟨_, hname, hcontents⟩ := exists_name_of_map_contents (fun _ _ => rfl) h
        obtain rfl := Option.some.inj hname
        exact ⟨token, .next (gap_of_skipGap_eq hskip) (gap_of_skipGap_eq hnext), hcontents⟩
      · cases h
      · cases h

theorem end_of_nextKey {first : Bool} {cs mid : List Char} (h : nextKey first cs = .ok (none, mid)) :
    ∃ rest, mid = '\x7d' :: rest ∧ Gap cs ('\x7d' :: rest) := by
  unfold nextKey at h
  split at h
  · cases h
  next rest hskip =>
    obtain ⟨-, rfl⟩ := Prod.mk.inj (Except.ok.inj h)
    exact ⟨rest, rfl, gap_of_skipGap_eq hskip⟩
  next c rest _ hskip =>
    split_ifs at h with hfirst hquote hcomma
    · obtain ⟨_, hname, -⟩ := exists_name_of_map_contents (fun _ _ => rfl) h
      cases hname
    · split at h
      · cases h
      · obtain ⟨_, hname, -⟩ := exists_name_of_map_contents (fun _ _ => rfl) h
        cases hname
      · cases h
      · cases h

theorem gap_of_colon {cs rest : List Char} (h : colon cs = .ok ((), rest)) : Gap cs (':' :: rest) := by
  unfold colon at h
  split at h
  · cases h
  next hskip =>
    obtain ⟨-, rfl⟩ := Prod.mk.inj (Except.ok.inj h)
    exact gap_of_skipGap_eq hskip
  · cases h

/-! ## Values -/

/-- What is read is a value that is spelled there. -/
def Recognizes (depth : Nat) (item : Reader Json) : Prop :=
  ∀ cs v rest, item cs = .ok (v, rest) →
    ∃ d start, Gap cs start ∧ Spells (.value d) start rest ∧ d.arranged = v ∧ d.nesting ≤ depth

theorem exists_items_spelled {depth : Nat} {item : Reader Json} (hitem : Recognizes depth item)
    {fuel cs mid : List Char} {first : Bool} {vs : List Json}
    (h : itemsFrom item fuel first cs = .ok (vs, mid)) :
    ∃ ds rest, mid = ']' :: rest ∧ Spells (.items first ds) cs rest ∧ arrangedItems ds = vs ∧
      nestingItems ds ≤ depth := by
  induction fuel generalizing first cs vs with
  | nil => cases h
  | cons c fuel ih =>
    rw [itemsFrom] at h
    obtain ⟨more, start, hmore, h⟩ := bind_eq_ok h
    cases more with
    | false =>
      obtain ⟨rfl, rfl⟩ := Prod.mk.inj (Except.ok.inj h)
      obtain ⟨rest, rfl, hgap⟩ := end_of_moreItems hmore
      exact ⟨[], rest, rfl, .noItem hgap, rfl, Nat.zero_le _⟩
    | true =>
      obtain ⟨v, afterItem, hv, h⟩ := bind_eq_ok h
      obtain ⟨tail, afterItems, hvs, h⟩ := bind_eq_ok h
      obtain ⟨rfl, rfl⟩ := Prod.mk.inj (Except.ok.inj h)
      obtain ⟨d, start', hgap, hspells, rfl, hdepth⟩ := hitem _ _ _ hv
      obtain ⟨ds, rest, rfl, hitems, rfl, hdepths⟩ := ih hvs
      exact ⟨d :: ds, rest, rfl, .nextItem ((ahead_of_moreItems hmore).trans_gap hgap) hspells hitems, rfl,
        Nat.max_le.mpr ⟨hdepth, hdepths⟩⟩

theorem exists_members_spelled {depth : Nat} {item : Reader Json} (hitem : Recognizes depth item)
    {fuel cs mid : List Char} {first : Bool} {there all : List (String × Json)}
    (h : membersFrom item fuel first there cs = .ok (all, mid)) :
    ∃ ms rest, mid = '\x7d' :: rest ∧ Spells (.members first ms) cs rest ∧
      arrangedMembers there ms = all ∧ nestingMembers ms ≤ depth := by
  induction fuel generalizing first cs there with
  | nil => cases h
  | cons c fuel ih =>
    rw [membersFrom] at h
    obtain ⟨key, afterKey, hkey, h⟩ := bind_eq_ok h
    cases key with
    | none =>
      obtain ⟨rfl, rfl⟩ := Prod.mk.inj (Except.ok.inj h)
      obtain ⟨rest, rfl, hgap⟩ := end_of_nextKey hkey
      exact ⟨[], rest, rfl, .noMember hgap, rfl, Nat.zero_le _⟩
    | some name =>
      obtain ⟨_, afterColon, hcolon, h⟩ := bind_eq_ok h
      obtain ⟨v, afterValue, hv, h⟩ := bind_eq_ok h
      obtain ⟨token, hahead, hname⟩ := ahead_of_nextKey hkey
      obtain ⟨token, rfl⟩ := exists_token_of_contents hname
      obtain ⟨d, start, hgap, hspells, rfl, hdepth⟩ := hitem _ _ _ hv
      obtain ⟨ms, rest, rfl, hmembers, rfl, hdepths⟩ := ih h
      exact ⟨(name, d) :: ms, rest, rfl,
        .nextMember hahead (.member hname (gap_of_colon hcolon) hgap hspells) hmembers, rfl,
        Nat.max_le.mpr ⟨hdepth, hdepths⟩⟩

theorem exists_list_spelled {depth : Nat} {item : Reader Json} (hitem : Recognizes depth item)
    {cs rest : List Char} {vs : List Json} (h : items item cs = .ok (vs, rest)) :
    ∃ ds, Spells (.items true ds) cs rest ∧ arrangedItems ds = vs ∧ nestingItems ds ≤ depth := by
  replace h : (itemsFrom item cs true >>= fun vs => closeList >>= fun _ => pure vs : Reader _) cs =
      .ok (vs, rest) := h
  obtain ⟨vs', mid, hitems, h⟩ := bind_eq_ok h
  obtain ⟨ds, rest', rfl, hspells, rfl, hdepth⟩ := exists_items_spelled hitem hitems
  obtain ⟨rfl, rfl⟩ := Prod.mk.inj (Except.ok.inj h)
  exact ⟨ds, hspells, rfl, hdepth⟩

theorem exists_object_spelled {depth : Nat} {item : Reader Json} (hitem : Recognizes depth item)
    {cs rest : List Char} {all : List (String × Json)} (h : members item cs = .ok (all, rest)) :
    ∃ ms, Spells (.members true ms) cs rest ∧ arrangedMembers [] ms = all ∧ nestingMembers ms ≤ depth := by
  replace h : (membersFrom item cs true [] >>= fun ms => closeObject >>= fun _ => pure ms : Reader _) cs =
      .ok (all, rest) := h
  obtain ⟨ms', mid, hmembers, h⟩ := bind_eq_ok h
  obtain ⟨ms, rest', rfl, hspells, rfl, hdepth⟩ := exists_members_spelled hitem hmembers
  obtain ⟨rfl, rfl⟩ := Prod.mk.inj (Except.ok.inj h)
  exact ⟨ms, hspells, rfl, hdepth⟩

/-- A value is spelled where it is read, if those inside its brackets are. -/
theorem recognizes_of_inner {depth : Nat} (hinner : ∀ d, depth = d + 1 → Recognizes d (value d)) :
    Recognizes depth (value depth) := by
  intro cs v rest h
  unfold value at h
  split at h
  · cases h
  next c tail hskip =>
    have hgap := gap_of_skipGap_eq hskip
    -- One case to each first character that a value can have; no other is read.
    split_ifs at h with hn ht hf hminus hdigit hquote hlist hobject
    · obtain ⟨_, hword, rfl⟩ := bind_pure_eq_ok h
      rw [hn, eq_append_of_word hword] at hgap
      exact ⟨.null, _, hgap, .nullWord, rfl, Nat.zero_le _⟩
    · obtain ⟨_, hword, rfl⟩ := bind_pure_eq_ok h
      rw [ht, eq_append_of_word hword] at hgap
      exact ⟨.flag true, _, hgap, .trueWord, rfl, Nat.zero_le _⟩
    · obtain ⟨_, hword, rfl⟩ := bind_pure_eq_ok h
      rw [hf, eq_append_of_word hword] at hgap
      exact ⟨.flag false, _, hgap, .falseWord, rfl, Nat.zero_le _⟩
    · obtain ⟨n, hnumber, rfl⟩ := bind_pure_eq_ok h
      obtain ⟨digit, token, rfl⟩ := exists_token_of_numberAfterSign hnumber
      rw [hminus] at hgap
      exact ⟨.number n, _, hgap, @Spells.negative n (digit :: token) rest hnumber, rfl, Nat.zero_le _⟩
    · obtain ⟨n, hnumber, rfl⟩ := bind_pure_eq_ok h
      obtain ⟨digit, token, heq⟩ := exists_token_of_numberAfterSign hnumber
      obtain ⟨rfl, rfl⟩ := List.cons.inj heq
      exact ⟨.number n, _, hgap, .number hdigit hnumber, rfl, Nat.zero_le _⟩
    · obtain ⟨s, htext, rfl⟩ := bind_pure_eq_ok h
      obtain ⟨token, rfl⟩ := exists_token_of_contents htext
      rw [hquote] at hgap
      exact ⟨.text s, _, hgap, .text htext, rfl, Nat.zero_le _⟩
    · split at h
      · cases h
      next depth =>
        obtain ⟨vs, hitems, rfl⟩ := bind_pure_eq_ok h
        obtain ⟨ds, hspells, rfl, hdepth⟩ := exists_list_spelled (hinner depth rfl) hitems
        rw [hlist] at hgap
        exact ⟨.list ds, _, hgap, .list hspells, rfl, Nat.succ_le_succ hdepth⟩
    · split at h
      · cases h
      next depth =>
        obtain ⟨all, hmembers, rfl⟩ := bind_pure_eq_ok h
        obtain ⟨ms, hspells, rfl, hdepth⟩ := exists_object_spelled (hinner depth rfl) hmembers
        rw [hobject] at hgap
        exact ⟨.object ms, _, hgap, .object hspells, rfl, Nat.succ_le_succ hdepth⟩

/-- **Whatever is read as a value is spelled there**, and nested no deeper than is allowed. -/
theorem recognizes_value (depth : Nat) : Recognizes depth (value depth) := by
  induction depth with
  | zero => exact recognizes_of_inner fun d hd => by cases hd
  | succ depth ih =>
    apply recognizes_of_inner
    intro d hd
    obtain rfl := Nat.succ.inj hd
    exact ih

/-! ## Whole texts -/

theorem gap_of_atEnd {cs rest : List Char} (h : atEnd cs = .ok ((), rest)) : Gap cs [] := by
  unfold atEnd at h
  split at h
  next hskip => exact gap_of_skipGap_eq hskip
  · cases h

theorem eq_ok_of_readAll {α : Type} {reader : Reader α} {text : List Char} {a : α}
    (h : readAll reader text = .ok a) : ∃ rest, reader text = .ok (a, rest) ∧ Gap rest [] := by
  replace h : ((reader >>= fun a => atEnd >>= fun _ => pure a : Reader α) text).map (·.1) = .ok a := h
  cases hread : (reader >>= fun a => atEnd >>= fun _ => pure a : Reader α) text with
  | error e => rw [hread] at h; cases h
  | ok result =>
    obtain ⟨a', after⟩ := result
    obtain ⟨b, rest, hvalue, hread'⟩ := bind_eq_ok hread
    obtain ⟨_, mid, hend, hread'⟩ := bind_eq_ok hread'
    obtain ⟨rfl, rfl⟩ := Prod.mk.inj (Except.ok.inj hread')
    rw [hread] at h
    obtain rfl := Except.ok.inj h
    exact ⟨rest, hvalue, gap_of_atEnd hend⟩

/-- **The texts that are read are the texts of documents** whose nesting stays within the limit. -/
theorem ofText_eq_ok_iff {text : List Char} {v : Json} :
    ofText text = .ok v ↔ ∃ d, IsTextOf text d ∧ d.nesting ≤ mostNesting ∧ d.arranged = v := by
  constructor
  · intro h
    obtain ⟨rest, hvalue, hafter⟩ := eq_ok_of_readAll h
    obtain ⟨d, start, hbefore, hspells, harranged, hdepth⟩ := recognizes_value mostNesting _ _ _ hvalue
    exact ⟨d, ⟨start, rest, hbefore, hspells, hafter⟩, hdepth, harranged⟩
  · rintro ⟨d, htext, hdepth, rfl⟩
    exact ofText_of_isTextOf htext hdepth

end Waterfall.Json
