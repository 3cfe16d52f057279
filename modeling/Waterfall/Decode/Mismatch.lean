import Waterfall.Number.Shortest
import Waterfall.Text.Quoted

/-!
# Well-formed data of the wrong shape

What can be wrong with a document that is well formed but is not the record, list or word that is
asked for, and the message for each case. Two details of the wording depend on the notation the
document is written in; they are the fields of `Wording`.
-/

namespace Waterfall

/-- What stands in a document where something else was asked for. -/
inductive Found where
  | flag (b : Bool)
  | whole (n : Int)
  | real (x : Float)
  | text (s : String)
  | absent
  | sequence
  | record

inductive Mismatch where
  /-- A value of another kind. -/
  | wrongType (found : Found) (expected : String)
  /-- A value of the right kind but out of range. -/
  | wrongValue (found : Found) (expected : String)
  /-- A list of the wrong length. -/
  | wrongLength (length : Nat) (expected : String)
  | missingField (name : String)
  | duplicateField (name : String)
  /-- A word that is none of the known ones. -/
  | unknownVariant (name : String) (known : List String)
  /-- A value that fits none of the forms of a union. -/
  | noForm (union : String)

/-- How a notation names an absent value and writes a real number in messages. -/
structure Wording where
  absent : String
  real : Float → String

/-- A real number with a point in every case. -/
def pointed (x : Float) : String :=
  .ofList (Shortest.text ⟨none, none, true, .up⟩ .double (Binary.ofFloat x))

/-- A real number as the JSON printer writes it. -/
def asJsonNumber (x : Float) : String :=
  .ofList (Shortest.text .jsonDouble .double (Binary.ofFloat x))

def Wording.json : Wording := ⟨"null", asJsonNumber⟩

def Wording.settings : Wording := ⟨"unit value", pointed⟩

/-- The decimal text of a whole number. -/
def decimal (n : Int) : String := .ofList (Digits.ofInt n)

def Found.describe (w : Wording) : Found → String
  | .flag b => "boolean `" ++ (if b then "true" else "false") ++ "`"
  | .whole n => "integer `" ++ decimal n ++ "`"
  | .real x => "floating point `" ++ w.real x ++ "`"
  | .text s => "string " ++ .ofList (Quoted.quote s.toList)
  | .absent => w.absent
  | .sequence => "sequence"
  | .record => "map"

/-- A word in back quotes. -/
def ticked (s : String) : String := "`" ++ s ++ "`"

/-- The known words, as an alternative of two or as a list. -/
def describeKnown : List String → String
  | [] => "there are no variants"
  | [a] => "expected " ++ ticked a
  | [a, b] => "expected " ++ ticked a ++ " or " ++ ticked b
  | ks => "expected one of " ++ ", ".intercalate (ks.map ticked)

def Mismatch.message (w : Wording) : Mismatch → String
  | .wrongType f e => "invalid type: " ++ f.describe w ++ ", expected " ++ e
  | .wrongValue f e => "invalid value: " ++ f.describe w ++ ", expected " ++ e
  | .wrongLength n e => "invalid length " ++ decimal n ++ ", expected " ++ e
  | .missingField name => "missing field " ++ ticked name
  | .duplicateField name => "duplicate field " ++ ticked name
  | .unknownVariant name known => "unknown variant " ++ ticked name ++ ", " ++ describeKnown known
  | .noForm union => "data did not match any variant of untagged enum " ++ union

/-- "struct NAME with N elements", the shape asked of a list that stands for a record. -/
def recordLength (title : String) (n : Nat) : String :=
  title ++ " with " ++ decimal n ++ (if n = 1 then " element" else " elements")

end Waterfall
