import Waterfall.Decode.Fields
import Waterfall.Json.Document

/-!
# Reading records straight from JSON text

Readers for values of a known shape: words and numbers, lists, optional values, words of a fixed
set, and records. They object at the first place in the text where it is not JSON or not of the
shape asked for; nothing behind that place is looked at. Members of a record that nobody asked for
are passed over.
-/

namespace Waterfall.Json

/-- The complaint that the value which comes next is of another kind. A list or an object is named
without being read; any other value has to be well formed first. -/
def wrongType {α : Type} (expected : String) : Reader α := fun cs =>
  let complain (found : Found) : Reader α := failHere (.mismatch (.wrongType found expected))
  match cs with
  | [] => .error ⟨.expectedValue, 0⟩
  | c :: rest =>
    if c = 'n' then (do word nullTail; complain .absent : Reader α) rest
    else if c = 't' then (do word trueTail; complain (.flag true) : Reader α) rest
    else if c = 'f' then (do word falseTail; complain (.flag false) : Reader α) rest
    else if c = '-' ∨ Digits.isDigit c then
      (do
        match ← numberAfterSign (c = '-') with
        | .whole n => complain (.whole n)
        | .double x => complain (.real x)
        | .single x => complain (.real (widen x)) : Reader α) (if c = '-' then rest else cs)
    else if c = '"' then (do complain (.text (← contents)) : Reader α) rest
    else if c = '[' then complain .sequence cs
    else if c = '\x7b' then complain .record cs
    else .error ⟨.expectedValue, byteCount cs - 1⟩

/-- Goes to the next token, which has to exist. -/
def token : Reader Char := fun cs =>
  match skipGap cs with
  | [] => .error ⟨.endInValue, 0⟩
  | cs@(c :: _) => .ok (c, cs)

/-- Drops the character that comes next. -/
def drop : Reader Unit := fun cs => .ok ((), cs.tail)

def readText : Reader String := do
  if (← token) = '"' then
    drop
    contents
  else wrongType "a string"

def readFlag : Reader Bool := do
  let c ← token
  if c = 't' then
    drop
    word trueTail
    return true
  else if c = 'f' then
    drop
    word falseTail
    return false
  else wrongType "a boolean"

/-- A number of any kind. -/
def readNumber (expected : String) : Reader JsonNumber := do
  let c ← token
  if c = '-' then
    drop
    numberAfterSign true
  else if Digits.isDigit c then numberAfterSign false
  else wrongType expected

/-- A whole number between two bounds. -/
def readWhole (least most : Int) (expected : String) : Reader Int := do
  match ← readNumber expected with
  | .whole n =>
    if least ≤ n ∧ n ≤ most then return n
    else failHere (.mismatch (.wrongValue (.whole n) expected))
  | .double x => failHere (.mismatch (.wrongType (.real x) expected))
  | .single x => failHere (.mismatch (.wrongType (.real (widen x)) expected))

/-- The bounds of a signed whole number of 64 bits. -/
def leastSigned : Int := -9223372036854775808

def mostSigned : Int := 9223372036854775807

/-- The largest unsigned whole number of 64 bits. -/
def mostUnsigned : Int := 18446744073709551615

def readSigned : Reader Int := readWhole leastSigned mostSigned "i64"

def readUnsigned : Reader Nat := do return (← readWhole 0 mostUnsigned "usize").toNat

/-- A number rounded to single precision. -/
def readSingle : Reader Float32 := do
  match ← readNumber "f32" with
  | .whole n => return singleOfInt n
  | .double x => return narrow x
  | .single x => return x

/-- A value or null. -/
def readOptional {α : Type} (read : Reader α) : Reader (Option α) := fun cs =>
  match skipGap cs with
  | 'n' :: rest => (do word nullTail; return none : Reader (Option α)) rest
  | cs => (do return some (← read) : Reader (Option α)) cs

def readList {α : Type} (read : Reader α) : Reader (List α) := do
  if (← token) = '[' then
    drop
    items read
  else wrongType "a sequence"

/-! ## Words of a fixed set -/

/-- The value that a word stands for. -/
def wordOf {α : Type} (known : List (String × α)) (name : String) : Reader α :=
  match known.lookup name with
  | some v => return v
  | none => failHere (.mismatch (.unknownVariant name (known.map (·.1))))

/-- Null, and nothing else. -/
def readNull : Reader Unit := do
  if (← token) = 'n' then
    drop
    word nullTail
  else wrongType "unit"

/-- One of the known words, alone or as the only member of an object whose value is null. -/
def readVariant {α : Type} (known : List (String × α)) : Reader α := do
  let c ← token
  if c = '"' then
    drop
    wordOf known (← contents)
  else if c = '\x7b' then
    drop
    match ← nextKey true with
    | none => failNext .expectedValue
    | some name =>
      let v ← wordOf known name
      colon
      readNull
      fun cs =>
        match skipGap cs with
        | [] => .error ⟨.endInObject, 0⟩
        | '\x7d' :: rest => .ok (v, rest)
        | cs => .error ⟨.expectedValue, byteCount cs⟩
  else failNext .expectedValue

/-! ## Records -/

/-- Where a fault of the record itself is reported: behind its closing bracket, if that comes next. -/
def failBehind {α : Type} (close : Char) (m : Mismatch) : Reader α := fun cs =>
  match skipGap cs with
  | [] => .error ⟨.mismatch m, 0⟩
  | cs@(c :: rest) =>
    if c = close then .error ⟨.mismatch m, byteCount rest⟩
    else .error ⟨.mismatch m, byteCount cs⟩

/-- The named members of a record up to the closing bracket. -/
def readMembers {ts : List Type} (fs : Fields Reader ts) : List Char → Bool → Slots ts → Reader (Slots ts)
  | [], _, _ => failHere .endInObject
  | _ :: fuel, first, slots => do
    match ← nextKey first with
    | none => return slots
    | some key =>
      match fs.lookup key slots with
      | .unknown =>
        colon
        skipValue
        readMembers fs fuel false slots
      | .repeated name => failBehind '\x7d' (.duplicateField name)
      | .takes read =>
        colon
        let slots ← read
        readMembers fs fuel false slots

/-- The values of a record as a list in field order, up to the closing bracket. -/
def readListed (title : String) (total : Nat) :
    {ts : List Type} → Fields Reader ts → Bool → Nat → Reader (Values ts)
  | _, .nil, _, _ => return ()
  | _, fs@(.cons f rest), first, given => do
    if ← moreItems first then
      let v ← f.read
      let vs ← readListed title total rest false (given + 1)
      return (v, vs)
    else
      match fs.unlisted title total given with
      | .ok vs => return vs
      | .error m => failBehind ']' m

/-- A record, as an object or as a list of its values. -/
def readRecord {ts : List Type} (title : String) (fs : Fields Reader ts) : Reader (Values ts) := do
  let c ← token
  if c = '\x7b' then
    drop
    let slots ← readMembers fs (← get) true fs.empty
    match fs.complete slots with
    | .ok vs =>
      closeObject
      return vs
    -- Only now is it known that a field is missing.
    | .error m => failBehind '\x7d' m
  else if c = '[' then
    drop
    let vs ← readListed title fs.length fs true 0
    closeList
    return vs
  else wrongType title

end Waterfall.Json
