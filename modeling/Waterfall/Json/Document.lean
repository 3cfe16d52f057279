import Waterfall.Json.NumberToken
import Waterfall.Json.StringToken

/-!
# Reading JSON documents

The reader of whole values and the pieces it shares with the readers of records: words, the commas
between items, the closing brackets, and passing over a value that nobody asked for. Values may be
nested 127 deep; what is passed over may be nested to any depth.

Inside a list or an object a comma is read together with the look at what follows it, so that a
comma before a closing bracket is an error of its own.
-/

namespace Waterfall.Json

/-- The rest of a fixed word. -/
def word : List Char → Reader Unit
  | [], cs => .ok ((), cs)
  | w :: ws, cs =>
    match cs with
    | [] => .error ⟨.endInValue, 0⟩
    | c :: rest => if c = w then word ws rest else .error ⟨.expectedWord, byteCount cs - 1⟩

/-- The words of the notation, without their first letters. -/
def nullTail : List Char := "ull".toList

def trueTail : List Char := "rue".toList

def falseTail : List Char := "alse".toList

/-! ## Lists and objects -/

/-- Whether a list goes on, standing before an item or the closing bracket. -/
def moreItems (first : Bool) : Reader Bool := fun cs =>
  match skipGap cs with
  | [] => .error ⟨.endInList, 0⟩
  | cs@(']' :: _) => .ok (false, cs)
  | cs@(c :: rest) =>
    if first then .ok (true, cs)
    else if c = ',' then
      match skipGap rest with
      | [] => .error ⟨.endInValue, 0⟩
      -- Without an item after it the comma is the fault, reported at the bracket.
      | cs@(']' :: _) => .error ⟨.trailingComma, byteCount cs - 1⟩
      | cs => .ok (true, cs)
    else .error ⟨.expectedListEnd, byteCount cs - 1⟩

/-- The name of the next member, if the object goes on. -/
def nextKey (first : Bool) : Reader (Option String) := fun cs =>
  let key : Reader (Option String) := fun cs => (contents cs).map fun (s, rest) => (some s, rest)
  match skipGap cs with
  | [] => .error ⟨.endInObject, 0⟩
  | cs@('\x7d' :: _) => .ok (none, cs)
  | cs@(c :: rest) =>
    if first then
      if c = '"' then key rest else .error ⟨.keyNotText, byteCount cs - 1⟩
    else if c = ',' then
      match skipGap rest with
      | [] => .error ⟨.endInValue, 0⟩
      | '"' :: rest => key rest
      | cs@('\x7d' :: _) => .error ⟨.trailingComma, byteCount cs - 1⟩
      | cs => .error ⟨.keyNotText, byteCount cs - 1⟩
    else .error ⟨.expectedObjectEnd, byteCount cs - 1⟩

/-- The colon after a name. -/
def colon : Reader Unit := fun cs =>
  match skipGap cs with
  | [] => .error ⟨.endInObject, 0⟩
  | ':' :: rest => .ok ((), rest)
  | cs => .error ⟨.expectedColon, byteCount cs - 1⟩

/-- The closing bracket of a list all of whose wanted items are read. -/
def closeList : Reader Unit := fun cs =>
  match skipGap cs with
  | [] => .error ⟨.endInList, 0⟩
  | ']' :: rest => .ok ((), rest)
  | ',' :: rest =>
    match skipGap rest with
    | cs@(']' :: _) => .error ⟨.trailingComma, byteCount cs - 1⟩
    | cs => .error ⟨.trailingCharacters, byteCount cs - 1⟩
  | cs => .error ⟨.trailingCharacters, byteCount cs - 1⟩

/-- The closing bracket of an object. -/
def closeObject : Reader Unit := fun cs =>
  match skipGap cs with
  | [] => .error ⟨.endInObject, 0⟩
  | '\x7d' :: rest => .ok ((), rest)
  | cs@(',' :: _) => .error ⟨.trailingComma, byteCount cs - 1⟩
  | cs => .error ⟨.trailingCharacters, byteCount cs - 1⟩

/-- The items of a list up to its closing bracket. Every item takes at least one character, so the
text that holds them serves as the fuel. -/
def itemsFrom {α : Type} (item : Reader α) : List Char → Bool → Reader (List α)
  | [], _ => failHere .endInList
  | _ :: fuel, first => do
    if ← moreItems first then
      let v ← item
      let vs ← itemsFrom item fuel false
      return v :: vs
    else return []

/-- A list after its opening bracket, up to and with the closing one. -/
def items {α : Type} (item : Reader α) : Reader (List α) := do
  let vs ← itemsFrom item (← get) true
  closeList
  return vs

/-- The members of an object up to its closing bracket, each put where it belongs. -/
def membersFrom (value : Reader Json) :
    List Char → Bool → List (String × Json) → Reader (List (String × Json))
  | [], _, _ => failHere .endInObject
  | _ :: fuel, first, members => do
    match ← nextKey first with
    | none => return members
    | some key =>
      colon
      let v ← value
      membersFrom value fuel false (setMember key v members)

/-- An object after its opening bracket, up to and with the closing one. -/
def members (value : Reader Json) : Reader (List (String × Json)) := do
  let ms ← membersFrom value (← get) true []
  closeObject
  return ms

/-! ## Values -/

/-- A value, with so many levels of nesting allowed. -/
def value : Nat → Reader Json
  | depth, cs =>
    match skipGap cs with
    | [] => .error ⟨.endInValue, 0⟩
    | cs@(c :: rest) =>
      if c = 'n' then (do word nullTail; return .null : Reader Json) rest
      else if c = 't' then (do word trueTail; return .flag true : Reader Json) rest
      else if c = 'f' then (do word falseTail; return .flag false : Reader Json) rest
      else if c = '-' then (do return .number (← numberAfterSign true) : Reader Json) rest
      else if Digits.isDigit c then (do return .number (← numberAfterSign false) : Reader Json) cs
      else if c = '"' then (do return .text (← contents) : Reader Json) rest
      else if c = '[' then
        match depth with
        | 0 => .error ⟨.tooDeep, byteCount cs - 1⟩
        | depth + 1 => (do return .list (← items (value depth)) : Reader Json) rest
      else if c = '\x7b' then
        match depth with
        | 0 => .error ⟨.tooDeep, byteCount cs - 1⟩
        | depth + 1 => (do return .object (← members (value depth)) : Reader Json) rest
      else .error ⟨.expectedValue, byteCount cs - 1⟩

/-- How deep values may be nested. -/
def mostNesting : Nat := 127

/-- Nothing but blanks up to the end of the text. -/
def atEnd : Reader Unit := fun cs =>
  match skipGap cs with
  | [] => .ok ((), [])
  | cs => .error ⟨.trailingCharacters, byteCount cs - 1⟩

/-- Reads a whole text with a reader. -/
def readAll {α : Type} (reader : Reader α) (text : List Char) : Except Failure α :=
  ((do let v ← reader; atEnd; return v : Reader α) text).map (·.1)

/-- The value of a JSON document. -/
def ofText (text : List Char) : Except Failure Json := readAll (value mostNesting) text

/-! ## Passing over values -/

/-- The name of a member that is passed over. -/
def skipKey : Reader Unit := fun cs =>
  match skipGap cs with
  | [] => .error ⟨.endInObject, 0⟩
  | '"' :: rest => (do skipContents; colon : Reader Unit) rest
  | cs => .error ⟨.keyNotText, byteCount cs - 1⟩

/-- Passes over the items of a list or the members of an object after the opening bracket. -/
def skipItems (item : Reader Unit) (close : Char) (atStop noComma : Fault) :
    List Char → Bool → Reader Unit
  | [], _ => failHere atStop
  | _ :: fuel, first => fun cs =>
    let go : Reader Unit := do item; skipItems item close atStop noComma fuel false
    match skipGap cs with
    | [] => .error ⟨atStop, 0⟩
    | cs@(c :: rest) =>
      if c = close then .ok ((), rest)
      else if first then go cs
      else if c = ',' then go rest
      else .error ⟨noComma, byteCount cs - 1⟩

/-- Passes over a value. Each level of nesting takes a character of the first argument. -/
def skipValueWithin : List Char → Reader Unit
  | [] => failHere .endInValue
  | _ :: depth => fun cs =>
    match skipGap cs with
    | [] => .error ⟨.endInValue, 0⟩
    | cs@(c :: rest) =>
      if c = 'n' then word nullTail rest
      else if c = 't' then word trueTail rest
      else if c = 'f' then word falseTail rest
      else if c = '-' then skipNumber rest
      else if Digits.isDigit c then skipNumber cs
      else if c = '"' then skipContents rest
      else if c = '[' then
        skipItems (skipValueWithin depth) ']' .endInList .expectedListEnd rest true rest
      else if c = '\x7b' then
        skipItems (do skipKey; skipValueWithin depth) '\x7d' .endInObject .expectedObjectEnd
          rest true rest
      else .error ⟨.expectedValue, byteCount cs - 1⟩

/-- Passes over a value of any depth: the text is at least as long as it is deep. -/
def skipValue : Reader Unit := fun cs => skipValueWithin cs cs

end Waterfall.Json
