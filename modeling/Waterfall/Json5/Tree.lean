import Waterfall.Decode.Mismatch
import Waterfall.Number.FloatText

/-!
# Settings documents

The tree of a JSON5 document. Numbers keep their source text and strings keep their pieces: both
are interpreted only when a value is asked for, and it is then that they can turn out to be
impossible (`DataFault`). A text that is not JSON5 at all has no tree.
-/

namespace Waterfall

namespace Json5

/-- A piece of a string or of a name. -/
inductive Piece where
  /-- A character that stands for itself or is escaped by a letter; `source` is that letter. -/
  | plain (source value : Char)
  /-- An escape by number, with its hexadecimal digits. -/
  | code (digits : List Char)

end Json5

inductive Json5 where
  | null
  | flag (b : Bool)
  | number (source : List Char)
  | text (pieces : List Json5.Piece)
  | list (items : List Json5)
  | object (members : List (List Json5.Piece × Json5))

namespace Json5

/-- What can be wrong with the data of a document that is well formed. -/
inductive DataFault where
  | mismatch (m : Mismatch)
  | badHex
  | badWhole
  | badNumber
  | tooLarge
  | loneTrail
  | missingTrail
  | expectedTrail
  | emptyRecord
  | notWordOrRecord

def DataFault.message : DataFault → String
  | .mismatch m => m.message .settings
  | .badHex => "error parsing hex"
  | .badWhole => "error parsing integer"
  | .badNumber => "error parsing number"
  | .tooLarge => "error parsing number: too large"
  | .loneTrail => "unexpected unicode trail surrogate"
  | .missingTrail => "missing unicode trail surrogate"
  | .expectedTrail => "expecting unicode trail surrogate"
  | .emptyRecord => "expected a nonempty object"
  | .notWordOrRecord => "expected a string or an object"

/-! ## Numbers -/

/-- The value of a hexadecimal digit. -/
def hexValue? (c : Char) : Option Nat :=
  if '0' ≤ c ∧ c ≤ '9' then some (c.toNat - 48)
  else if 'a' ≤ c ∧ c ≤ 'f' then some (c.toNat - 87)
  else if 'A' ≤ c ∧ c ≤ 'F' then some (c.toNat - 55)
  else none

/-- Hexadecimal digits as a number of 32 bits. -/
def hexNumber (cs : List Char) : Except DataFault Nat :=
  match cs.mapM hexValue? with
  | some ds@(_ :: _) =>
    let n := ds.foldl (fun n d => 16 * n + d) 0
    if n < twoTo 32 then .ok n else .error .badHex
  | _ => .error .badHex

/-- The digits of a hexadecimal number, if it is one; a signed number is not. -/
def hexDigits? : List Char → Option (List Char)
  | '0' :: 'x' :: c :: cs => some (c :: cs)
  | '0' :: 'X' :: c :: cs => some (c :: cs)
  | _ => none

/-- The numbers that are not finite, spelled out and without a plus sign. -/
def unboundedWord? (source : List Char) : Option Binary :=
  [("Infinity", .infinite false), ("-Infinity", .infinite true), ("NaN", .nan), ("-NaN", .nan)].lookup
    (String.ofList source)

/-- A number as a double. -/
def realOf (source : List Char) : Except DataFault Float :=
  match unboundedWord? source with
  | some x => .ok x.toFloat
  | none =>
    match hexDigits? source with
    | some ds => (hexNumber ds).map fun n => doubleOfInt n
    | none =>
      match FloatText.parse? source with
      | none => .error .badNumber
      | some t => if t.toFloat.isFinite then .ok t.toFloat else .error .tooLarge

/-- Whether a number is read as a whole one where any number may stand. -/
def isWhole (source : List Char) : Bool :=
  !source.contains '.' && (unboundedWord? source).isNone &&
    ((hexDigits? source).isSome || !(source.contains 'e' || source.contains 'E'))

/-- A whole number of 64 signed bits. -/
def wholeOf (source : List Char) : Except DataFault Int :=
  match hexDigits? source with
  | some ds => (hexNumber ds).map fun n => n
  | none =>
    let (negative, ds) := FloatText.sign source
    if ds.isEmpty || !ds.all Digits.isDigit then .error .badWhole
    else
      let n : Int := if negative then -(Digits.toNat ds : Int) else Digits.toNat ds
      if -(twoTo 63 : Int) ≤ n ∧ n < twoTo 63 then .ok n else .error .badWhole

/-! ## Strings -/

/-- The text of a piece as it was written, less the letter that announces a number. -/
def Piece.source : Piece → List Char
  | .plain source _ => [source]
  | .code digits => digits

def isHighSurrogate (n : Nat) : Bool := 0xd800 ≤ n && n ≤ 0xdbff

def isLowSurrogate (n : Nat) : Bool := 0xdc00 ≤ n && n ≤ 0xdfff

/-- The character of a surrogate pair: the bits of both halves, with the lowest bit of the plane set.
Only below the second plane is that the same as adding `0x10000`. -/
def pairedCharacter (high low : Nat) : Char :=
  let offset := (high - 0xd800) * 0x400 + (low - 0xdc00)
  Char.ofNat (if offset / 0x10000 % 2 = 0 then offset + 0x10000 else offset)

/-- The characters that pieces stand for. After the first half of a surrogate pair the next piece
is read as a number whatever it is. -/
def characters : List Piece → Except DataFault (List Char)
  | [] => .ok []
  | .plain _ v :: rest => (characters rest).map (v :: ·)
  | .code ds :: rest => do
    let n ← hexNumber ds
    if isLowSurrogate n then .error .loneTrail
    else if isHighSurrogate n then
      match rest with
      | [] => .error .missingTrail
      | p :: rest =>
        -- The second half may be any piece whose source happens to be hexadecimal.
        let low ← hexNumber p.source
        if isLowSurrogate low then
          (characters rest).map (pairedCharacter n low :: ·)
        else .error .expectedTrail
    else (characters rest).map (Char.ofNat n :: ·)

/-- The text that pieces stand for. -/
def textOf (pieces : List Piece) : Except DataFault String :=
  (characters pieces).map .ofList

end Json5

end Waterfall
