import Waterfall.Decode.Mismatch

/-!
# The fields of a record

A record is read from named members in any order or from a list in field order. `Fields R ts` lists
the fields with the way `R` to read each; `Slots ts` holds what has been read so far and `Values ts`
the complete record. `lookup` says what a member name asks for, `complete` fills in what was left
out or names the first field that may not be.
-/

namespace Waterfall

/-- Whether a field may be left out, and what stands for it then. -/
inductive Presence (α : Type) where
  /-- Must be given. -/
  | required
  /-- May be left out among named members, but not in a list. -/
  | nullable (value : α)
  /-- May be left out in both forms. -/
  | defaulted (value : α)

/-- The value of a field left out among named members. -/
def Presence.unnamed {α : Type} : Presence α → Option α
  | .required => none
  | .nullable v => some v
  | .defaulted v => some v

/-- The value of a field beyond the end of a list. -/
def Presence.unlisted {α : Type} : Presence α → Option α
  | .required => none
  | .nullable _ => none
  | .defaulted v => some v

structure Field (R : Type → Type) (α : Type) where
  name : String
  read : R α
  presence : Presence α
  /-- A second name that means the same. -/
  otherName : Option String := none

def Field.answersTo {R : Type → Type} {α : Type} (f : Field R α) (key : String) : Bool :=
  key == f.name || some key == f.otherName

inductive Fields (R : Type → Type) : List Type → Type 1 where
  | nil : Fields R []
  | cons {t : Type} {ts : List Type} (field : Field R t) (rest : Fields R ts) : Fields R (t :: ts)

/-- What has been read of each field so far. -/
abbrev Slots : List Type → Type
  | [] => Unit
  | t :: ts => Option t × Slots ts

/-- A value for each field. -/
abbrev Values : List Type → Type
  | [] => Unit
  | t :: ts => t × Values ts

/-- What a member name asks for: nothing known, a field that is already filled, or reading a field. -/
inductive Lookup (R : Type → Type) (ts : List Type) where
  | unknown
  | repeated (name : String)
  | takes (read : R (Slots ts))

namespace Fields

variable {R : Type → Type}

def length {ts : List Type} (_ : Fields R ts) : Nat := ts.length

/-- No field read yet. -/
def empty : {ts : List Type} → Fields R ts → Slots ts
  | _, .nil => ()
  | _, .cons _ rest => (none, rest.empty)

/-- What the member `key` asks for, given the fields read so far. -/
def lookup [Functor R] : {ts : List Type} → Fields R ts → String → Slots ts → Lookup R ts
  | _, .nil, _, _ => .unknown
  | _, .cons f rest, key, (slot, slots) =>
    if f.answersTo key then
      if slot.isSome then .repeated f.name else .takes ((fun v => (some v, slots)) <$> f.read)
    else
      match rest.lookup key slots with
      | .unknown => .unknown
      | .repeated name => .repeated name
      | .takes read => .takes ((fun s => (slot, s)) <$> read)

/-- The whole record once all members are read. -/
def complete : {ts : List Type} → Fields R ts → Slots ts → Except Mismatch (Values ts)
  | _, .nil, _ => .ok ()
  | _, .cons f rest, (slot, slots) =>
    match slot.orElse fun _ => f.presence.unnamed with
    | none => .error (.missingField f.name)
    | some v => (rest.complete slots).map fun vs => (v, vs)

/-- The record when the list of its values has ended after `given` of them. -/
def unlisted (title : String) (total given : Nat) :
    {ts : List Type} → Fields R ts → Except Mismatch (Values ts)
  | _, .nil => .ok ()
  | _, .cons f rest =>
    match f.presence.unlisted with
    | none => .error (.wrongLength given (recordLength title total))
    | some v => (rest.unlisted title total (given + 1)).map fun vs => (v, vs)

end Fields

end Waterfall
