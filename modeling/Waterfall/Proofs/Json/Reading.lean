import Waterfall.Proofs.Json.Spelling

/-!
# Reading the texts of a document

Every text of a document is read if its nesting stays within the limit, and what is read is the document
with its members arranged (`ofText_of_isTextOf`); a text of a document nested deeper is refused as too deep
(`ofText_of_isTextOf_deep`). Both go by induction on the spelling, one case to each way a piece can be
spelled; items and members carry the fuel that their own text gives them.
-/

namespace Waterfall.Json

/-! ## Steps of the readers -/

section Steps

variable {α β : Type} {reader : Reader α} {next : α → Reader β} {cs mid : List Char} {a : α} {e : Failure}

theorem bind_of_ok (h : reader cs = .ok (a, mid)) : (reader >>= next) cs = next a mid := by
  simp only [bind, StateT.bind, h, Except.bind]

theorem bind_of_error (h : reader cs = .error e) : (reader >>= next) cs = .error e := by
  simp only [bind, StateT.bind, h, Except.bind]

end Steps

theorem value_of_gap (depth : Nat) {cs start : List Char} (h : Gap cs start) :
    value depth cs = value depth start := by
  unfold value
  rw [h.skipGap_eq]

theorem moreItems_of_end (first : Bool) {cs rest : List Char} (h : Gap cs (']' :: rest)) :
    moreItems first cs = .ok (false, ']' :: rest) := by
  unfold moreItems
  rw [h.skipGap_eq, skipGap_cons rest (by decide)]
  rfl

theorem moreItems_of_ahead {first : Bool} {c : Char} {cs tail : List Char} (h : Ahead first cs (c :: tail))
    (hc : isGap c = false) (hend : c ≠ ']') : moreItems first cs = .ok (true, c :: tail) := by
  unfold moreItems
  cases h with
  | first hgap =>
    rw [hgap.skipGap_eq, skipGap_cons tail hc]
    simp
  | @next _ afterComma _ hcomma hgap =>
    have hskip : skipGap afterComma = c :: tail := by rw [hgap.skipGap_eq, skipGap_cons tail hc]
    rw [hcomma.skipGap_eq, skipGap_cons afterComma (by decide)]
    split
    next h => cases h
    next h => exact absurd (List.cons.inj h).1 (by decide)
    next h =>
      obtain ⟨rfl, rfl⟩ := List.cons.inj h
      rw [if_neg Bool.false_ne_true, if_pos rfl, hskip]
      -- The comma is no fault, since no bracket follows it.
      split
      next h => cases h
      next h => exact absurd (List.cons.inj h).1 hend
      next => rfl

theorem nextKey_of_end (first : Bool) {cs rest : List Char} (h : Gap cs ('\x7d' :: rest)) :
    nextKey first cs = .ok (none, '\x7d' :: rest) := by
  unfold nextKey
  rw [h.skipGap_eq, skipGap_cons rest (by decide)]
  rfl

theorem nextKey_of_ahead {first : Bool} {cs token afterName : List Char} {name : String}
    (h : Ahead first cs ('"' :: token)) (hname : contents token = .ok (name, afterName)) :
    nextKey first cs = .ok (some name, afterName) := by
  unfold nextKey
  cases h with
  | first hgap =>
    rw [hgap.skipGap_eq, skipGap_cons token (by decide)]
    simp [hname, Except.map]
  | @next _ afterComma _ hcomma hgap =>
    have hskip : skipGap afterComma = '"' :: token := by
      rw [hgap.skipGap_eq, skipGap_cons token (by decide)]
    rw [hcomma.skipGap_eq, skipGap_cons afterComma (by decide)]
    simp [hskip, hname, Except.map]

theorem colon_of_gap {cs rest : List Char} (h : Gap cs (':' :: rest)) : colon cs = .ok ((), rest) := by
  unfold colon
  rw [h.skipGap_eq, skipGap_cons rest (by decide)]
  rfl

theorem value_digit (depth : Nat) {digit : Char} (cs : List Char) (h : Digits.isDigit digit = true) :
    value depth (digit :: cs) =
      (do return .number (← numberAfterSign false) : Reader Json) (digit :: cs) := by
  have hne : ∀ c, Digits.isDigit c = false → digit ≠ c := by
    rintro c hc rfl
    exact absurd h (by simp [hc])
  unfold value
  rw [skipGap_cons cs (isGap_of_isDigit h)]
  simp only [hne 'n' (by decide), hne 't' (by decide), hne 'f' (by decide), hne '-' (by decide), h,
    if_false, if_true]

theorem value_list (depth : Nat) (cs : List Char) :
    value (depth + 1) ('[' :: cs) = (do return .list (← items (value depth)) : Reader Json) cs := by
  rw [value, skipGap_cons cs (by decide)]
  rfl

theorem value_object (depth : Nat) (cs : List Char) :
    value (depth + 1) ('\x7b' :: cs) = (do return .object (← members (value depth)) : Reader Json) cs := by
  rw [value, skipGap_cons cs (by decide)]
  rfl

theorem value_bracket_zero {c : Char} (cs : List Char) (h : c = '[' ∨ c = '\x7b') :
    ∃ left, value 0 (c :: cs) = .error ⟨.tooDeep, left⟩ := by
  rcases h with rfl | rfl <;> exact ⟨_, rfl⟩

/-- How deep the values of a piece are nested. -/
def Piece.nesting : Piece → Nat
  | .value v => v.nesting
  | .member _ v => v.nesting
  | .items _ vs => nestingItems vs
  | .members _ ms => nestingMembers ms

/-- The piece is read with so many levels of nesting allowed for its values. Items and members are read
up to the bracket that closes them, with any fuel that is longer than they are many. -/
def Piece.Reads (depth : Nat) (cs rest : List Char) : Piece → Prop
  | .value v => Json.value depth cs = .ok (v.arranged, rest)
  | .member name v => ∃ token afterName start, cs = '"' :: token ∧
      contents token = .ok (name, afterName) ∧ Json.colon afterName = .ok ((), start) ∧
      Json.value depth start = .ok (v.arranged, rest)
  | .items first vs => ∀ fuel : List Char, vs.length < fuel.length →
      itemsFrom (Json.value depth) fuel first cs = .ok (arrangedItems vs, ']' :: rest)
  | .members first ms => ∀ fuel : List Char, ms.length < fuel.length → ∀ there,
      membersFrom (Json.value depth) fuel first there cs = .ok (arrangedMembers there ms, '\x7d' :: rest)

/-- A value inside the piece is nested too deep, and that is what is reported. -/
def Piece.TooDeep (depth : Nat) (cs : List Char) : Piece → Prop
  | .value _ => ∃ left, Json.value depth cs = .error ⟨.tooDeep, left⟩
  | .member name _ => ∃ token afterName start, cs = '"' :: token ∧
      contents token = .ok (name, afterName) ∧ Json.colon afterName = .ok ((), start) ∧
      ∃ left, Json.value depth start = .error ⟨.tooDeep, left⟩
  | .items first vs => ∀ fuel : List Char, vs.length < fuel.length →
      ∃ left, itemsFrom (Json.value depth) fuel first cs = .error ⟨.tooDeep, left⟩
  | .members first ms => ∀ fuel : List Char, ms.length < fuel.length → ∀ there,
      ∃ left, membersFrom (Json.value depth) fuel first there cs = .error ⟨.tooDeep, left⟩

section Items

variable {α : Type} {item : Reader α} {first : Bool} {cs start mid rest : List Char} {v : α}

theorem itemsFrom_of_end (item : Reader α) {fuel : List Char} (hfuel : 0 < fuel.length)
    (h : moreItems first cs = .ok (false, rest)) :
    itemsFrom item fuel first cs = .ok ([], rest) := by
  cases fuel with
  | nil => cases hfuel
  | cons c fuel =>
    rw [itemsFrom, bind_of_ok h]
    rfl

theorem itemsFrom_of_more (item : Reader α) (c : Char) (fuel : List Char)
    (h : moreItems first cs = .ok (true, start)) :
    itemsFrom item (c :: fuel) first cs =
      (do let v ← item; let vs ← itemsFrom item fuel false; return v :: vs : Reader (List α)) start := by
  rw [itemsFrom, bind_of_ok h]
  rfl

/-- An item, and those that follow it. -/
theorem itemsFrom_of_item {vs : List α} {count : Nat} (hmore : moreItems first cs = .ok (true, start))
    (hv : item start = .ok (v, mid))
    (hvs : ∀ fuel : List Char, count < fuel.length → itemsFrom item fuel false mid = .ok (vs, rest))
    {fuel : List Char} (hfuel : count + 1 < fuel.length) :
    itemsFrom item fuel first cs = .ok (v :: vs, rest) := by
  cases fuel with
  | nil => cases hfuel
  | cons c fuel =>
    rw [itemsFrom_of_more item c fuel hmore, bind_of_ok hv, bind_of_ok (hvs fuel (by simpa using hfuel))]
    rfl

/-- The first fault of an item or of those that follow it is the fault of all. -/
theorem itemsFrom_of_tooDeep {count : Nat} (hmore : moreItems first cs = .ok (true, start))
    (h : (∃ left, item start = .error ⟨.tooDeep, left⟩) ∨
      ∃ v mid, item start = .ok (v, mid) ∧ ∀ fuel : List Char, count < fuel.length →
        ∃ left, itemsFrom item fuel false mid = .error ⟨.tooDeep, left⟩)
    {fuel : List Char} (hfuel : count + 1 < fuel.length) :
    ∃ left, itemsFrom item fuel first cs = .error ⟨.tooDeep, left⟩ := by
  cases fuel with
  | nil => cases hfuel
  | cons c fuel =>
    rw [itemsFrom_of_more item c fuel hmore]
    rcases h with ⟨left, hleft⟩ | ⟨v, mid, hv, hvs⟩
    · exact ⟨left, bind_of_error hleft⟩
    · obtain ⟨left, hleft⟩ := hvs fuel (by simpa using hfuel)
      exact ⟨left, by rw [bind_of_ok hv, bind_of_error hleft]⟩

end Items

section Members

variable {item : Reader Json} {first : Bool} {cs start afterName mid rest : List Char} {v : Json}
  {name : String}

theorem membersFrom_of_end (item : Reader Json) (there : List (String × Json)) {fuel : List Char}
    (hfuel : 0 < fuel.length) (h : nextKey first cs = .ok (none, rest)) :
    membersFrom item fuel first there cs = .ok (there, rest) := by
  cases fuel with
  | nil => cases hfuel
  | cons c fuel =>
    rw [membersFrom, bind_of_ok h]
    rfl

theorem membersFrom_of_key (item : Reader Json) (c : Char) (fuel : List Char) (there : List (String × Json))
    (hkey : nextKey first cs = .ok (some name, afterName)) (hcolon : colon afterName = .ok ((), start)) :
    membersFrom item (c :: fuel) first there cs =
      (do let v ← item; membersFrom item fuel false (setMember name v there)) start := by
  rw [membersFrom, bind_of_ok hkey]
  exact bind_of_ok hcolon

/-- A member, and those that follow it. -/
theorem membersFrom_of_member {there all : List (String × Json)} {count : Nat}
    (hkey : nextKey first cs = .ok (some name, afterName)) (hcolon : colon afterName = .ok ((), start))
    (hv : item start = .ok (v, mid))
    (hms : ∀ fuel : List Char, count < fuel.length →
      membersFrom item fuel false (setMember name v there) mid = .ok (all, rest))
    {fuel : List Char} (hfuel : count + 1 < fuel.length) :
    membersFrom item fuel first there cs = .ok (all, rest) := by
  cases fuel with
  | nil => cases hfuel
  | cons c fuel =>
    rw [membersFrom_of_key item c fuel there hkey hcolon, bind_of_ok hv]
    exact hms fuel (by simpa using hfuel)

theorem membersFrom_of_tooDeep {there : List (String × Json)} {count : Nat}
    (hkey : nextKey first cs = .ok (some name, afterName)) (hcolon : colon afterName = .ok ((), start))
    (h : (∃ left, item start = .error ⟨.tooDeep, left⟩) ∨
      ∃ v mid, item start = .ok (v, mid) ∧ ∀ fuel : List Char, count < fuel.length →
        ∃ left, membersFrom item fuel false (setMember name v there) mid = .error ⟨.tooDeep, left⟩)
    {fuel : List Char} (hfuel : count + 1 < fuel.length) :
    ∃ left, membersFrom item fuel first there cs = .error ⟨.tooDeep, left⟩ := by
  cases fuel with
  | nil => cases hfuel
  | cons c fuel =>
    rw [membersFrom_of_key item c fuel there hkey hcolon]
    rcases h with ⟨left, hleft⟩ | ⟨v, mid, hv, hms⟩
    · exact ⟨left, bind_of_error hleft⟩
    · obtain ⟨left, hleft⟩ := hms fuel (by simpa using hfuel)
      exact ⟨left, by rw [bind_of_ok hv, hleft]⟩

end Members

/-- A list is read when its items are, up to the bracket. -/
theorem items_of_itemsFrom {α : Type} {item : Reader α} {cs rest : List Char} {vs : List α}
    (h : itemsFrom item cs true cs = .ok (vs, ']' :: rest)) : items item cs = .ok (vs, rest) := by
  show (itemsFrom item cs true >>= fun vs => closeList >>= fun _ => pure vs : Reader (List α)) cs = _
  rw [bind_of_ok h]
  rfl

theorem items_of_error {item : Reader Json} {cs : List Char} {e : Failure}
    (h : itemsFrom item cs true cs = .error e) : items item cs = .error e := by
  show (itemsFrom item cs true >>= fun vs => closeList >>= fun _ => pure vs : Reader (List Json)) cs = _
  exact bind_of_error h

theorem members_of_membersFrom {item : Reader Json} {cs rest : List Char} {ms : List (String × Json)}
    (h : membersFrom item cs true [] cs = .ok (ms, '\x7d' :: rest)) : members item cs = .ok (ms, rest) := by
  show (membersFrom item cs true [] >>= fun ms => closeObject >>= fun _ => pure ms : Reader _) cs = _
  rw [bind_of_ok h]
  rfl

theorem members_of_error {item : Reader Json} {cs : List Char} {e : Failure}
    (h : membersFrom item cs true [] cs = .error e) : members item cs = .error e := by
  show (membersFrom item cs true [] >>= fun ms => closeObject >>= fun _ => pure ms : Reader _) cs = _
  exact bind_of_error h

/-! ## Documents within the limit -/

/-- **Every spelling of a piece is read** where its nesting is allowed. -/
theorem Spells.reads {p : Piece} {cs rest : List Char} (h : Spells p cs rest) {depth : Nat}
    (hdepth : p.nesting ≤ depth) : p.Reads depth cs rest := by
  -- A level is used up inside brackets, so the induction is for every number of levels.
  induction h generalizing depth with
  | nullWord =>
    unfold Piece.Reads value
    rfl
  | trueWord =>
    unfold Piece.Reads value
    rfl
  | falseWord =>
    unfold Piece.Reads value
    rfl
  | negative hn =>
    unfold Piece.Reads value
    exact bind_of_ok hn
  | number hdigit hn =>
    unfold Piece.Reads
    rw [value_digit depth _ hdigit]
    exact bind_of_ok hn
  | text hs =>
    unfold Piece.Reads value
    exact bind_of_ok hs
  | @list vs cs rest hvs ih =>
    cases depth with
    | zero => cases hdepth
    | succ depth =>
      have hread : itemsFrom (value depth) cs true cs = .ok (arrangedItems vs, ']' :: rest) :=
        ih (Nat.le_of_succ_le_succ hdepth) cs hvs.fuel
      show value (depth + 1) _ = _
      rw [value_list]
      exact bind_of_ok (items_of_itemsFrom hread)
  | @object ms cs rest hms ih =>
    cases depth with
    | zero => cases hdepth
    | succ depth =>
      have hread : membersFrom (value depth) cs true [] cs = .ok (arrangedMembers [] ms, '\x7d' :: rest) :=
        ih (Nat.le_of_succ_le_succ hdepth) cs hms.fuel []
      show value (depth + 1) _ = _
      rw [value_object]
      exact bind_of_ok (members_of_membersFrom hread)
  | member hname hcolon hgap _ ih =>
    refine ⟨_, _, _, rfl, hname, colon_of_gap hcolon, ?_⟩
    rw [value_of_gap depth hgap]
    exact ih hdepth
  | noItem hgap =>
    intro fuel hfuel
    exact itemsFrom_of_end _ hfuel (moreItems_of_end _ hgap)
  | nextItem hahead hv _ ihv ihvs =>
    obtain ⟨hdepth, hothers⟩ := Nat.max_le.mp hdepth
    -- An item is looked for only where no bracket closes the list.
    obtain ⟨c, tail, rfl, hc, hend⟩ := hv.value_start
    intro fuel hfuel
    exact itemsFrom_of_item (moreItems_of_ahead hahead hc hend) (ihv hdepth) (ihvs hothers) hfuel
  | noMember hgap =>
    intro fuel hfuel there
    exact membersFrom_of_end _ there hfuel (nextKey_of_end _ hgap)
  | nextMember hahead _ _ ihm ihms =>
    obtain ⟨hdepth, hothers⟩ := Nat.max_le.mp hdepth
    obtain ⟨token, afterName, start, rfl, hname, hcolon, hv⟩ := ihm hdepth
    intro fuel hfuel there
    exact membersFrom_of_member (nextKey_of_ahead hahead hname) hcolon hv
      (fun fuel hfuel => ihms hothers fuel hfuel _) hfuel

/-! ## Documents nested too deep -/

/-- The first value is nested too deep, or it is read and those that follow are nested too deep. -/
theorem Spells.first_deep_cases {p : Piece} {cs mid : List Char} {depth others : Nat} (h : Spells p cs mid)
    (hdepth : depth < max p.nesting others) :
    depth < p.nesting ∨ p.Reads depth cs mid ∧ depth < others := by
  rcases Nat.lt_or_ge depth p.nesting with hp | hp
  · exact .inl hp
  · refine .inr ⟨h.reads hp, ?_⟩
    omega

/-- A value inside brackets that is nested too deep is reported where the brackets are read. -/
theorem Spells.tooDeep {p : Piece} {cs rest : List Char} (h : Spells p cs rest) {depth : Nat}
    (hdepth : depth < p.nesting) : p.TooDeep depth cs := by
  induction h generalizing depth with
  | nullWord => cases hdepth
  | trueWord => cases hdepth
  | falseWord => cases hdepth
  | negative _ => cases hdepth
  | number _ _ => cases hdepth
  | text _ => cases hdepth
  | @list vs cs rest hvs ih =>
    cases depth with
    | zero => exact value_bracket_zero cs (.inl rfl)
    | succ depth =>
      obtain ⟨left, hleft⟩ : ∃ left, itemsFrom (value depth) cs true cs = .error ⟨.tooDeep, left⟩ :=
        ih (Nat.lt_of_succ_lt_succ hdepth) cs hvs.fuel
      refine ⟨left, ?_⟩
      rw [value_list]
      exact bind_of_error (items_of_error hleft)
  | @object ms cs rest hms ih =>
    cases depth with
    | zero => exact value_bracket_zero cs (.inr rfl)
    | succ depth =>
      obtain ⟨left, hleft⟩ : ∃ left, membersFrom (value depth) cs true [] cs = .error ⟨.tooDeep, left⟩ :=
        ih (Nat.lt_of_succ_lt_succ hdepth) cs hms.fuel []
      refine ⟨left, ?_⟩
      rw [value_object]
      exact bind_of_error (members_of_error hleft)
  | member hname hcolon hgap _ ih =>
    refine ⟨_, _, _, rfl, hname, colon_of_gap hcolon, ?_⟩
    rw [value_of_gap depth hgap]
    exact ih hdepth
  | noItem _ => cases hdepth
  | nextItem hahead hv _ ihv ihvs =>
    obtain ⟨c, tail, rfl, hc, hend⟩ := hv.value_start
    intro fuel hfuel
    refine itemsFrom_of_tooDeep (moreItems_of_ahead hahead hc hend) ?_ hfuel
    rcases hv.first_deep_cases hdepth with hdeep | ⟨hread, hothers⟩
    · exact .inl (ihv hdeep)
    · exact .inr ⟨_, _, hread, ihvs hothers⟩
  | noMember _ => cases hdepth
  | nextMember hahead hm _ ihm ihms =>
    intro fuel hfuel there
    rcases hm.first_deep_cases hdepth with hdeep | ⟨hread, hothers⟩
    · obtain ⟨token, afterName, start, rfl, hname, hcolon, hv⟩ := ihm hdeep
      exact membersFrom_of_tooDeep (nextKey_of_ahead hahead hname) hcolon (.inl hv) hfuel
    · obtain ⟨token, afterName, start, rfl, hname, hcolon, hv⟩ := hread
      exact membersFrom_of_tooDeep (nextKey_of_ahead hahead hname) hcolon
        (.inr ⟨_, _, hv, fun fuel hfuel => ihms hothers fuel hfuel _⟩) hfuel

/-! ## Whole texts -/

/-- What is read of a whole text, with nothing but blanks behind it. -/
theorem readAll_of_ok {α : Type} {reader : Reader α} {text rest : List Char} {v : α}
    (hread : reader text = .ok (v, rest)) (hafter : Gap rest []) : readAll reader text = .ok v := by
  have hend : atEnd rest = .ok ((), []) := by
    unfold atEnd
    rw [hafter.skipGap_eq]
    rfl
  show Except.map (·.1) ((reader >>= fun v => atEnd >>= fun _ => pure v : Reader α) text) = _
  rw [bind_of_ok hread, bind_of_ok hend]
  rfl

/-- **Every text of a document is read** as the document with its members arranged, if the document is
not nested too deep. -/
theorem ofText_of_isTextOf {text : List Char} {d : Json} (h : IsTextOf text d)
    (hdepth : d.nesting ≤ mostNesting) : ofText text = .ok d.arranged := by
  obtain ⟨start, rest, hbefore, hspells, hafter⟩ := h
  have hvalue : value mostNesting text = .ok (d.arranged, rest) := by
    rw [value_of_gap mostNesting hbefore]
    exact hspells.reads hdepth
  exact readAll_of_ok hvalue hafter

/-- A text of a document that is nested too deep is refused for that, somewhere in the text. -/
theorem ofText_of_isTextOf_deep {text : List Char} {d : Json} (h : IsTextOf text d)
    (hdepth : mostNesting < d.nesting) : ∃ left, ofText text = .error ⟨.tooDeep, left⟩ := by
  obtain ⟨start, rest, hbefore, hspells, -⟩ := h
  obtain ⟨left, hleft⟩ : ∃ left, value mostNesting start = .error ⟨.tooDeep, left⟩ := hspells.tooDeep hdepth
  refine ⟨left, ?_⟩
  show Except.map (·.1) ((value mostNesting >>= fun v => atEnd >>= fun _ => pure v : Reader Json) text) = _
  rw [bind_of_error (by rw [value_of_gap mostNesting hbefore, hleft])]
  rfl

end Waterfall.Json
