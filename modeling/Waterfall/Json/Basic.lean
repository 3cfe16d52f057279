import Waterfall.Number.Shortest

/-!
# JSON values

The value behind a JSON document. The members of an object stand in the order of their names and
each name once; `setMember` keeps it so, the last value given to a name being the one that stays.
-/

namespace Waterfall

/-- A JSON number: a whole number, or a real number of one of two precisions. -/
inductive JsonNumber where
  | whole (n : Int)
  | double (x : Float)
  | single (x : Float32)

inductive Json where
  | null
  | flag (b : Bool)
  | number (n : JsonNumber)
  | text (s : String)
  | list (items : List Json)
  | object (members : List (String × Json))

namespace Json

/-- Gives a name a value among members sorted by name. -/
def setMember (key : String) (value : Json) : List (String × Json) → List (String × Json)
  | [] => [(key, value)]
  | (k, v) :: rest =>
    if key < k then (key, value) :: (k, v) :: rest
    else if key = k then (key, value) :: rest
    else (k, v) :: setMember key value rest

/-- The value of a member, by name. -/
def member? (key : String) (members : List (String × Json)) : Option Json :=
  members.lookup key

/-- The member just set is found. -/
theorem member?_setMember (key : String) (value : Json) (members : List (String × Json)) :
    member? key (setMember key value members) = some value := by
  induction members with
  | nil => simp [setMember, member?]
  | cons m rest ih =>
    obtain ⟨k, v⟩ := m
    simp only [setMember]
    split
    · simp [member?]
    · split
      · simp [member?]
      · next h =>
        have : (key == k) = false := by simp [h]
        simpa [member?, List.lookup_cons, this] using ih

/-- A whole number as a value. -/
def whole (n : Int) : Json := .number (.whole n)

/-- A single as a value. -/
def single (x : Float32) : Json := .number (.single x)

/-- A value or null. -/
def optional {α : Type} (write : α → Json) : Option α → Json
  | none => .null
  | some v => write v

end Json

end Waterfall
