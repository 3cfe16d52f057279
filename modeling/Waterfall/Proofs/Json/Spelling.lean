import Waterfall.Json.Document

/-!
# Texts of JSON documents

A document as it is written keeps the members of an object in the order of the text and a repeated name
as often as it is given. `Spells` relates such a document to its texts: blanks may stand around every
token, and what a number or a string in the text stands for is left to the readers of tokens.

`Json.arranged` is the document as it is once read: the members of each object stand by name, and the last
value given to a name is the one that stays.
-/

namespace Waterfall.Json

/-! ## Documents as they are written -/

mutual

/-- How deep lists and objects are nested. -/
def nesting : Json → Nat
  | .list vs => nestingItems vs + 1
  | .object ms => nestingMembers ms + 1
  | _ => 0

def nestingItems : List Json → Nat
  | [] => 0
  | v :: vs => max (nesting v) (nestingItems vs)

def nestingMembers : List (String × Json) → Nat
  | [] => 0
  | (_, v) :: ms => max (nesting v) (nestingMembers ms)

end

mutual

/-- The document with the members of each object put in their places one after the other. -/
def arranged : Json → Json
  | .list vs => .list (arrangedItems vs)
  | .object ms => .object (arrangedMembers [] ms)
  | v => v

def arrangedItems : List Json → List Json
  | [] => []
  | v :: vs => arranged v :: arrangedItems vs

/-- The given members in their places among those that are there already. -/
def arrangedMembers : List (String × Json) → List (String × Json) → List (String × Json)
  | there, [] => there
  | there, (name, v) :: ms => arrangedMembers (setMember name (arranged v) there) ms

end

/-! ## Spellings -/

/-- Nothing but blanks from one place of a text to a later one. -/
def Gap (cs rest : List Char) : Prop := ∃ blanks, (∀ c ∈ blanks, isGap c = true) ∧ cs = blanks ++ rest

/-- What stands before an item or a member: blanks, with a comma among them unless it is the first. -/
inductive Ahead : Bool → List Char → List Char → Prop
  | first {cs start : List Char} : Gap cs start → Ahead true cs start
  | next {cs afterComma start : List Char} :
      Gap cs (',' :: afterComma) → Gap afterComma start → Ahead false cs start

/-- What a stretch of text can be: a value, a member, or what follows an opening bracket up to and with
the closing one, where `first` tells whether no item or member has come yet. -/
inductive Piece where
  | value (v : Json)
  | member (name : String) (v : Json)
  | items (first : Bool) (vs : List Json)
  | members (first : Bool) (ms : List (String × Json))

/-- `Spells p cs rest`: the text `cs` begins with the piece and goes on with `rest`. -/
inductive Spells : Piece → List Char → List Char → Prop
  | nullWord {rest : List Char} : Spells (.value .null) ("null".toList ++ rest) rest
  | trueWord {rest : List Char} : Spells (.value (.flag true)) ("true".toList ++ rest) rest
  | falseWord {rest : List Char} : Spells (.value (.flag false)) ("false".toList ++ rest) rest
  | negative {n : JsonNumber} {token rest : List Char} :
      numberAfterSign true (token ++ rest) = .ok (n, rest) →
      Spells (.value (.number n)) ('-' :: (token ++ rest)) rest
  | number {n : JsonNumber} {digit : Char} {token rest : List Char} :
      Digits.isDigit digit = true → numberAfterSign false (digit :: (token ++ rest)) = .ok (n, rest) →
      Spells (.value (.number n)) (digit :: (token ++ rest)) rest
  | text {s : String} {token rest : List Char} :
      contents (token ++ rest) = .ok (s, rest) →
      Spells (.value (.text s)) ('"' :: (token ++ rest)) rest
  | list {vs : List Json} {cs rest : List Char} :
      Spells (.items true vs) cs rest → Spells (.value (.list vs)) ('[' :: cs) rest
  | object {ms : List (String × Json)} {cs rest : List Char} :
      Spells (.members true ms) cs rest → Spells (.value (.object ms)) ('\x7b' :: cs) rest
  | member {name : String} {v : Json} {token afterName afterColon start rest : List Char} :
      contents (token ++ afterName) = .ok (name, afterName) → Gap afterName (':' :: afterColon) →
      Gap afterColon start → Spells (.value v) start rest →
      Spells (.member name v) ('"' :: (token ++ afterName)) rest
  | noItem {first : Bool} {cs rest : List Char} :
      Gap cs (']' :: rest) → Spells (.items first []) cs rest
  | nextItem {first : Bool} {v : Json} {vs : List Json} {cs start mid rest : List Char} :
      Ahead first cs start → Spells (.value v) start mid → Spells (.items false vs) mid rest →
      Spells (.items first (v :: vs)) cs rest
  | noMember {first : Bool} {cs rest : List Char} :
      Gap cs ('\x7d' :: rest) → Spells (.members first []) cs rest
  | nextMember {first : Bool} {name : String} {v : Json} {ms : List (String × Json)}
      {cs start mid rest : List Char} :
      Ahead first cs start → Spells (.member name v) start mid → Spells (.members false ms) mid rest →
      Spells (.members first ((name, v) :: ms)) cs rest

/-- The text is a text of the document, with nothing but blanks around it. -/
def IsTextOf (text : List Char) (document : Json) : Prop :=
  ∃ start rest, Gap text start ∧ Spells (.value document) start rest ∧ Gap rest []

/-! ## Blanks -/

theorem gap_refl (cs : List Char) : Gap cs cs := ⟨[], by simp, rfl⟩

theorem Gap.trans {cs mid rest : List Char} (h : Gap cs mid) (h' : Gap mid rest) : Gap cs rest := by
  obtain ⟨blanks, hblanks, rfl⟩ := h
  obtain ⟨blanks', hblanks', rfl⟩ := h'
  refine ⟨blanks ++ blanks', ?_, by rw [List.append_assoc]⟩
  intro c hc
  rcases List.mem_append.mp hc with hc | hc
  · exact hblanks c hc
  · exact hblanks' c hc

theorem Gap.length_le {cs rest : List Char} (h : Gap cs rest) : rest.length ≤ cs.length := by
  obtain ⟨blanks, -, rfl⟩ := h
  simp

theorem Ahead.length_le {first : Bool} {cs start : List Char} (h : Ahead first cs start) :
    start.length ≤ cs.length := by
  cases h with
  | first hgap => exact hgap.length_le
  | next hcomma hgap =>
    have hafter := hcomma.length_le
    have hstart := hgap.length_le
    simp only [List.length_cons] at hafter
    omega

/-- Past a gap the same text remains. -/
theorem Gap.skipGap_eq {cs rest : List Char} (h : Gap cs rest) : skipGap cs = skipGap rest := by
  obtain ⟨blanks, hblanks, rfl⟩ := h
  rw [skipGap, List.dropWhile_append_of_pos hblanks, skipGap]

theorem isGap_of_isDigit {c : Char} (h : Digits.isDigit c = true) : isGap c = false := by
  simp only [isGap, Bool.or_eq_false_iff, beq_eq_false_iff_ne]
  refine ⟨⟨⟨?_, ?_⟩, ?_⟩, ?_⟩ <;>
    · rintro rfl
      exact absurd h (by decide)

/-- A value starts with a character that is neither a blank nor the bracket that ends a list. -/
theorem Spells.value_start {v : Json} {cs rest : List Char} (h : Spells (.value v) cs rest) :
    ∃ c tail, cs = c :: tail ∧ isGap c = false ∧ c ≠ ']' := by
  cases h with
  | nullWord => exact ⟨'n', _, rfl, rfl, by decide⟩
  | trueWord => exact ⟨'t', _, rfl, rfl, by decide⟩
  | falseWord => exact ⟨'f', _, rfl, rfl, by decide⟩
  | negative _ => exact ⟨'-', _, rfl, rfl, by decide⟩
  | number hdigit _ =>
    refine ⟨_, _, rfl, isGap_of_isDigit hdigit, ?_⟩
    rintro rfl
    exact absurd hdigit (by decide)
  | text _ => exact ⟨'"', _, rfl, rfl, by decide⟩
  | list _ => exact ⟨'[', _, rfl, rfl, by decide⟩
  | object _ => exact ⟨'\x7b', _, rfl, rfl, by decide⟩

/-- A list or an object takes a character for each item or member and one more. -/
def Piece.size : Piece → Nat
  | .value _ => 0
  | .member _ _ => 0
  | .items _ vs => vs.length
  | .members _ ms => ms.length

theorem length_lt_append {token rest : List Char} (h : 0 < token.length) :
    0 + rest.length < (token ++ rest).length := by
  rw [List.length_append]
  omega

theorem Spells.size_lt {p : Piece} {cs rest : List Char} (h : Spells p cs rest) :
    p.size + rest.length < cs.length := by
  induction h with
  | nullWord => exact length_lt_append (by decide)
  | trueWord => exact length_lt_append (by decide)
  | falseWord => exact length_lt_append (by decide)
  | negative _ =>
    simp only [Piece.size, List.length_cons, List.length_append]
    omega
  | number _ _ =>
    simp only [Piece.size, List.length_cons, List.length_append]
    omega
  | text _ =>
    simp only [Piece.size, List.length_cons, List.length_append]
    omega
  | list _ ih =>
    simp only [Piece.size, List.length_cons] at ih ⊢
    omega
  | object _ ih =>
    simp only [Piece.size, List.length_cons] at ih ⊢
    omega
  | member _ hcolon hgap _ ih =>
    have hafter := hcolon.length_le
    have hstart := hgap.length_le
    simp only [Piece.size, List.length_cons, List.length_append] at *
    omega
  | noItem hgap =>
    have hend := hgap.length_le
    simp only [Piece.size, List.length_cons, List.length_nil] at *
    omega
  | nextItem hahead _ _ ihv ihvs =>
    have hstart := hahead.length_le
    simp only [Piece.size, List.length_cons] at *
    omega
  | noMember hgap =>
    have hend := hgap.length_le
    simp only [Piece.size, List.length_cons, List.length_nil] at *
    omega
  | nextMember hahead _ _ ihv ihms =>
    have hstart := hahead.length_le
    simp only [Piece.size, List.length_cons] at *
    omega

/-- What is inside brackets has enough fuel in its own text. -/
theorem Spells.fuel {p : Piece} {cs rest : List Char} (h : Spells p cs rest) : p.size < cs.length := by
  have := h.size_lt
  omega

end Waterfall.Json
