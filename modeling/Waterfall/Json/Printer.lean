import Waterfall.Json.Basic

/-!
# Writing JSON

The compact and the indented form of a value. Quotes, backslashes and control characters are
escaped; every other character stands for itself. A number that is not finite has no JSON form and
is written as null.
-/

namespace Waterfall.Json

/-- A hexadecimal digit, small letters. -/
def hexDigit (n : Nat) : Char := if n < 10 then Char.ofNat (48 + n) else Char.ofNat (87 + n)

/-- One character inside quotes. -/
def escape (c : Char) : List Char :=
  if c = '"' then ['\\', '"']
  else if c = '\\' then ['\\', '\\']
  else if c = '\x08' then ['\\', 'b']
  else if c = '\x0c' then ['\\', 'f']
  else if c = '\n' then ['\\', 'n']
  else if c = '\r' then ['\\', 'r']
  else if c = '\t' then ['\\', 't']
  else if c.toNat < 0x20 then
    ['\\', 'u', '0', '0', hexDigit (c.toNat / 16), hexDigit (c.toNat % 16)]
  else [c]

/-- A text in quotes. -/
def quoted (s : String) : List Char := '"' :: s.toList.flatMap escape ++ ['"']

/-- A real number, or null. -/
def realText (style : Shortest.Style) (p : Precision) (b : Binary) : List Char :=
  match b with
  | .finite .. => Shortest.text style p b
  | _ => "null".toList

def numberText : JsonNumber → List Char
  | .whole n => Digits.ofInt n
  | .double x => realText .jsonDouble .double (Binary.ofFloat x)
  | .single x => realText .jsonSingle .single (Binary.ofFloat32 x)

/-- Texts with commas between them. -/
def separated (separator : List Char) : List (List Char) → List Char
  | [] => []
  | [t] => t
  | t :: ts => t ++ separator ++ separated separator ts

mutual

/-- The form without blanks. -/
def compact : Json → List Char
  | .null => "null".toList
  | .flag b => (if b then "true" else "false").toList
  | .number n => numberText n
  | .text s => quoted s
  | .list vs => '[' :: separated [','] (compactItems vs) ++ [']']
  | .object ms => '\x7b' :: separated [','] (compactMembers ms) ++ ['\x7d']

def compactItems : List Json → List (List Char)
  | [] => []
  | v :: vs => compact v :: compactItems vs

def compactMembers : List (String × Json) → List (List Char)
  | [] => []
  | (k, v) :: ms => (quoted k ++ ':' :: compact v) :: compactMembers ms

end

/-- A new line, indented by two blanks for each level. -/
def newLine (level : Nat) : List Char := '\n' :: List.replicate (2 * level) ' '

/-- Bracketed parts, one to a line; without parts the brackets alone. -/
def bracketed (opening closing : Char) (level : Nat) (parts : List (List Char)) : List Char :=
  if parts.isEmpty then [opening, closing]
  else
    opening :: newLine (level + 1) ++ separated (',' :: newLine (level + 1)) parts ++
      newLine level ++ [closing]

mutual

/-- The indented form, inside so many levels of brackets. -/
def indented (level : Nat) : Json → List Char
  | .null => "null".toList
  | .flag b => (if b then "true" else "false").toList
  | .number n => numberText n
  | .text s => quoted s
  | .list vs => bracketed '[' ']' level (indentedItems (level + 1) vs)
  | .object ms => bracketed '\x7b' '\x7d' level (indentedMembers (level + 1) ms)

def indentedItems (level : Nat) : List Json → List (List Char)
  | [] => []
  | v :: vs => indented level v :: indentedItems level vs

def indentedMembers (level : Nat) : List (String × Json) → List (List Char)
  | [] => []
  | (k, v) :: ms => (quoted k ++ ':' :: ' ' :: indented level v) :: indentedMembers level ms

end

/-- The document without blanks. -/
def toText (v : Json) : String := .ofList (compact v)

/-- The document laid out over lines. -/
def toPrettyText (v : Json) : String := .ofList (indented 0 v)

end Waterfall.Json
