import Waterfall.Json.Fault

/-!
# Strings in a JSON text

The characters between the quotes: all characters but controls stand for themselves, a backslash
starts an escape, and two escapes that form a surrogate pair stand for one character. `contents`
reads the characters, `skipContents` only finds the closing quote and takes any escape of the right
form, paired or not.
-/

namespace Waterfall.Json

/-- The value of a hexadecimal digit. -/
def hexValue? (c : Char) : Option Nat :=
  if '0' ≤ c ∧ c ≤ '9' then some (c.toNat - 48)
  else if 'a' ≤ c ∧ c ≤ 'f' then some (c.toNat - 87)
  else if 'A' ≤ c ∧ c ≤ 'F' then some (c.toNat - 55)
  else none

/-- The four digits of an escape, taken as four bytes. The escape is cut short when fewer bytes are
left, and otherwise invalid unless all four are digits. -/
def fourDigits : Reader Nat := fun cs =>
  match cs with
  | a :: b :: c :: d :: rest =>
    match hexValue? a, hexValue? b, hexValue? c, hexValue? d with
    | some a, some b, some c, some d => .ok (((a * 16 + b) * 16 + c) * 16 + d, rest)
    | _, _, _, _ => .error ⟨.invalidEscape, byteCount cs - 4⟩
  | _ => if byteCount cs < 4 then .error ⟨.endInString, 0⟩ else .error ⟨.invalidEscape, byteCount cs - 4⟩

/-- The character of a simple escape. -/
def simpleEscape? : Char → Option Char
  | '"' => some '"'
  | '\\' => some '\\'
  | '/' => some '/'
  | 'b' => some '\x08'
  | 'f' => some '\x0c'
  | 'n' => some '\n'
  | 'r' => some '\r'
  | 't' => some '\t'
  | _ => none

def isHighSurrogate (n : Nat) : Bool := 0xd800 ≤ n && n ≤ 0xdbff

def isLowSurrogate (n : Nat) : Bool := 0xdc00 ≤ n && n ≤ 0xdfff

/-- The character of a surrogate pair. -/
def pairValue (high low : Nat) : Char := Char.ofNat ((high - 0xd800) * 0x400 + (low - 0xdc00) + 0x10000)

/-- The second half of a surrogate pair, which has to follow at once. -/
def lowHalf (high : Nat) : List Char → Except Failure Char
  | [] => .error ⟨.endInString, 0⟩
  | '\\' :: rest =>
    match rest with
    | [] => .error ⟨.endInString, 0⟩
    | 'u' :: rest =>
      match fourDigits rest with
      | .error e => .error e
      | .ok (low, rest) =>
        if isLowSurrogate low then .ok (pairValue high low)
        else .error ⟨.loneSurrogate, byteCount rest⟩
    | rest => .error ⟨.endOfEscape, byteCount rest - 1⟩
  | cs => .error ⟨.endOfEscape, byteCount cs - 1⟩

/-- The character that an escape stands for, and how many characters the escape has after its
backslash. -/
def unescape : List Char → Except Failure (Char × Nat)
  | [] => .error ⟨.endInString, 0⟩
  | 'u' :: rest =>
    match fourDigits rest with
    | .error e => .error e
    | .ok (n, rest) =>
      if isLowSurrogate n then .error ⟨.loneSurrogate, byteCount rest⟩
      else if isHighSurrogate n then (lowHalf n rest).map (·, 11)
      else .ok (Char.ofNat n, 5)
  | c :: rest =>
    match simpleEscape? c with
    | some c => .ok (c, 1)
    | none => .error ⟨.invalidEscape, byteCount (c :: rest) - 1⟩

/-- The characters up to the closing quote. The first argument counts the characters of an escape
that are still to be passed over. -/
def contentsFrom : Nat → Reader (List Char)
  | _, [] => .error ⟨.endInString, 0⟩
  | passed + 1, _ :: rest => contentsFrom passed rest
  | 0, c :: rest =>
    if c = '"' then .ok ([], rest)
    else if c = '\\' then
      match unescape rest with
      | .error e => .error e
      | .ok (ch, length) =>
        match contentsFrom length rest with
        | .error e => .error e
        | .ok (chs, after) => .ok (ch :: chs, after)
    else if c.toNat < 0x20 then .error ⟨.controlCharacter, byteCount rest⟩
    else
      match contentsFrom 0 rest with
      | .error e => .error e
      | .ok (chs, after) => .ok (c :: chs, after)

/-- The text after an opening quote. -/
def contents : Reader String := fun cs =>
  match contentsFrom 0 cs with
  | .error e => .error e
  | .ok (chs, after) => .ok (.ofList chs, after)

/-- How many characters an escape has after its backslash, whatever it stands for. -/
def escapeLength : List Char → Except Failure Nat
  | [] => .error ⟨.endInString, 0⟩
  | 'u' :: rest => (fourDigits rest).map fun _ => 5
  | c :: rest =>
    match simpleEscape? c with
    | some _ => .ok 1
    | none => .error ⟨.invalidEscape, byteCount (c :: rest) - 1⟩

def skipContentsFrom : Nat → Reader Unit
  | _, [] => .error ⟨.endInString, 0⟩
  | passed + 1, _ :: rest => skipContentsFrom passed rest
  | 0, c :: rest =>
    if c = '"' then .ok ((), rest)
    else if c = '\\' then
      match escapeLength rest with
      | .error e => .error e
      | .ok length => skipContentsFrom length rest
    else if c.toNat < 0x20 then .error ⟨.controlCharacter, byteCount (c :: rest)⟩
    else skipContentsFrom 0 rest

/-- Passes over a string after its opening quote. -/
def skipContents : Reader Unit := skipContentsFrom 0

/-- A plain character is kept. -/
theorem contentsFrom_plain {c : Char} (rest : List Char) (hq : c ≠ '"') (hb : c ≠ '\\')
    (hc : 0x20 ≤ c.toNat) :
    contentsFrom 0 (c :: rest) =
      (contentsFrom 0 rest).map fun (chs, after) => (c :: chs, after) := by
  simp only [contentsFrom, hq, hb, if_false, show ¬ c.toNat < 0x20 by omega]
  cases contentsFrom 0 rest <;> rfl

end Waterfall.Json
