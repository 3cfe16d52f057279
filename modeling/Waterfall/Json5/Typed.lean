import Waterfall.Decode.Tree
import Waterfall.Json5.Tree

/-!
# Reading settings out of JSON5

Readers for values of a known shape. A number field takes the source text of whatever stands there,
so a value of another kind is not of the wrong type but a number that cannot be read. Members that
nobody asked for are still interpreted, and refused when they cannot be.
-/

namespace Waterfall.Json5

abbrev Json5Decoder := Decoder Json5 DataFault

/-- What a value is called in a complaint about its kind; a number or a text is read first. -/
def found : Json5 → Except DataFault Found
  | .null => .ok .absent
  | .flag b => .ok (.flag b)
  | .number source =>
    if isWhole source then (wholeOf source).map .whole else (realOf source).map .real
  | .text pieces => (textOf pieces).map .text
  | .list _ => .ok .sequence
  | .object _ => .ok .record

/-- The complaint about a value of another kind. -/
def wrong {α : Type} (expected : String) : Json5Decoder α := fun v => do
  .error (.mismatch (.wrongType (← found v) expected))

mutual

/-- Interprets a value that nobody asked for. -/
def ignore : Json5 → Except DataFault Unit
  | .list vs => ignoreItems vs
  | .object ms => ignoreMembers ms
  | v => (found v).map fun _ => ()

def ignoreItems : List Json5 → Except DataFault Unit
  | [] => .ok ()
  | v :: vs => do
    ignore v
    ignoreItems vs

def ignoreMembers : List (List Piece × Json5) → Except DataFault Unit
  | [] => .ok ()
  | (name, v) :: ms => do
    let _ ← textOf name
    ignore v
    ignoreMembers ms

end

def asText : Json5Decoder String
  | .text pieces => textOf pieces
  | v => wrong "a string" v

/-- A number as a double. -/
def asReal : Json5Decoder Float
  | .number source => realOf source
  | _ => .error .badNumber

/-- A number rounded to single precision. -/
def asSingle : Json5Decoder Float32 := fun v => (asReal v).map narrow

/-- A number cut down to a whole one of 64 bits without sign. -/
def asUnsigned : Json5Decoder Nat := fun v =>
  (asReal v).map fun x => ((Binary.ofFloat x).clampToInt 0 (twoTo 64 - 1)).toNat

/-- A value or null. -/
def asOptional {α : Type} (read : Json5Decoder α) : Json5Decoder (Option α)
  | .null => .ok none
  | v => (read v).map some

def asList {α : Type} (read : Json5Decoder α) : Json5Decoder (List α)
  | .list vs => do
    let items ← vs.mapM read
    return items
  | v => wrong "a sequence" v

/-- One of the known words, alone or as the first name in an object, whatever its value. -/
def asVariant {α : Type} (known : List (String × α)) : Json5Decoder α
  | .text pieces => do variant (← textOf pieces)
  | .object [] => .error .emptyRecord
  | .object ((name, _) :: _) => do variant (← textOf name)
  | _ => .error .notWordOrRecord
where
  variant (name : String) : Except DataFault α :=
    match known.lookup name with
    | some a => .ok a
    | none => .error (.mismatch (.unknownVariant name (known.map (·.1))))

/-- A record, as an object or as a list of its values; a list may be longer than the record. -/
def asRecord {ts : List Type} (title : String) (fs : Fields Json5Decoder ts) : Json5Decoder (Values ts)
  | .object members => fs.ofMembers .mismatch textOf ignore members
  | .list vs => (fs.ofItems .mismatch title fs.length 0 vs).map (·.1)
  | v => wrong title v

/-- A field that may be left out or null. -/
def maybe {α : Type} (name : String) (read : Json5Decoder α) : Field Json5Decoder (Option α) :=
  { name, read := asOptional read, presence := .nullable none }

end Waterfall.Json5
