import Waterfall.Decode.Mismatch
import Waterfall.Text.Position

/-!
# Faults of a JSON text

What a reader of JSON text can object to and where. A `Failure` gives the place as the number of
bytes that were not yet passed, so that no reader has to know how far into the text it stands;
`Failure.message` turns it into a line and a column of the whole text.
-/

namespace Waterfall.Json

inductive Fault where
  | endInList
  | endInObject
  | endInString
  | endInValue
  | expectedColon
  | expectedListEnd
  | expectedObjectEnd
  | expectedWord
  | expectedValue
  | invalidEscape
  | invalidNumber
  | numberOutOfRange
  | controlCharacter
  | keyNotText
  | loneSurrogate
  | trailingComma
  | trailingCharacters
  | endOfEscape
  | tooDeep
  | mismatch (m : Mismatch)

def Fault.message : Fault → String
  | .endInList => "EOF while parsing a list"
  | .endInObject => "EOF while parsing an object"
  | .endInString => "EOF while parsing a string"
  | .endInValue => "EOF while parsing a value"
  | .expectedColon => "expected `:`"
  | .expectedListEnd => "expected `,` or `]`"
  | .expectedObjectEnd => "expected `,` or `\x7d`"
  | .expectedWord => "expected ident"
  | .expectedValue => "expected value"
  | .invalidEscape => "invalid escape"
  | .invalidNumber => "invalid number"
  | .numberOutOfRange => "number out of range"
  | .controlCharacter => "control character (\\u0000-\\u001F) found while parsing a string"
  | .keyNotText => "key must be a string"
  | .loneSurrogate => "lone leading surrogate in hex escape"
  | .trailingComma => "trailing comma"
  | .trailingCharacters => "trailing characters"
  | .endOfEscape => "unexpected end of hex escape"
  | .tooDeep => "recursion limit exceeded"
  | .mismatch m => m.message .json

/-- A fault and the number of bytes of the text that lie beyond it. -/
structure Failure where
  fault : Fault
  left : Nat

/-- The position of a failure in the text that was read. -/
def Failure.position (text : List Char) (f : Failure) : Position :=
  .after text (byteCount text - f.left)

/-- The message with line and column. -/
def Failure.message (text : List Char) (f : Failure) : String :=
  let p := f.position text
  f.fault.message ++ " at line " ++ decimal p.line ++ " column " ++ decimal p.column

/-- A reader takes a value off the front of a text. -/
abbrev Reader := StateT (List Char) (Except Failure)

/-- A fault at the place reached. -/
def failHere {α : Type} (fault : Fault) : Reader α :=
  fun cs => .error ⟨fault, byteCount cs⟩

/-- A fault at the byte that comes next. -/
def failNext {α : Type} (fault : Fault) : Reader α :=
  fun cs => .error ⟨fault, byteCount cs - 1⟩

/-- The blanks between tokens. -/
def isGap (c : Char) : Bool := c == ' ' || c == '\n' || c == '\t' || c == '\r'

/-- Passes over blanks. -/
def skipGap (cs : List Char) : List Char := cs.dropWhile isGap

/-- A text that does not start with a blank is left as it is. -/
theorem skipGap_cons {c : Char} (cs : List Char) (h : isGap c = false) :
    skipGap (c :: cs) = c :: cs := by
  simp [skipGap, h]

end Waterfall.Json
