import Waterfall.Json5.Tree
import Waterfall.Text.Blank
import Waterfall.Text.Letter

/-!
# The JSON5 grammar

From a text to its tree, or nothing where the text is not JSON5. Alternatives are tried in a fixed
order and the first that matches is taken; a number or a name ends where no further character fits.
-/

namespace Waterfall.Json5

/-! ## Blanks and comments -/

def isLineEnd (c : Char) : Bool :=
  c == '\n' || c == '\r' || c.toNat == 0x2028 || c.toNat == 0x2029

/-- Blanks between tokens: the blanks of every script but next line, and the byte order mark. -/
def isSpace (c : Char) : Bool :=
  (isBlank c && c.toNat != 0x85) || c.toNat == 0xfeff

/-- Where the text between two tokens stands. -/
inductive Gap where
  | code
  | line
  | block
  deriving DecidableEq

/-- Passes over blanks and comments. A comment in block form has to be closed. -/
def skipGapFrom : Gap → List Char → Option (List Char)
  | .code, '/' :: '/' :: rest => skipGapFrom .line rest
  | .code, '/' :: '*' :: rest => skipGapFrom .block rest
  | .code, c :: rest => if isSpace c then skipGapFrom .code rest else some (c :: rest)
  | .line, c :: rest => if isLineEnd c then skipGapFrom .code rest else skipGapFrom .line rest
  | .block, '*' :: '/' :: rest => skipGapFrom .code rest
  | .block, _ :: rest => skipGapFrom .block rest
  | .block, [] => none
  | _, [] => some []

def skipGap : List Char → Option (List Char) := skipGapFrom .code

/-! ## Strings and names -/

/-- The character that a letter after a backslash stands for. -/
def simpleEscape : Char → Char
  | 'b' => '\x08'
  | 'f' => '\x0c'
  | 'n' => '\n'
  | 'r' => '\r'
  | 't' => '\t'
  | 'v' => '\x0b'
  | c => c

/-- So many hexadecimal digits. -/
def hexDigits (n : Nat) (cs : List Char) : Option (List Char) :=
  let ds := cs.take n
  if ds.length = n ∧ ds.all fun c => (hexValue? c).isSome then some ds else none

/-- The piece that an escape stands for, if it is not a broken line, and how many characters it
takes after the backslash. -/
def escapeAt : List Char → Option (Option Piece × Nat)
  | [] => none
  | '\r' :: '\n' :: _ => some (none, 2)
  | c :: rest =>
    if isLineEnd c then some (none, 1)
    else if c = '0' then some (some (.plain '0' '\x00'), 1)
    else if c = 'x' then (hexDigits 2 rest).map fun ds => (some (.code ds), 3)
    else if c = 'u' then (hexDigits 4 rest).map fun ds => (some (.code ds), 5)
    else if c.isDigit then none
    else some (some (.plain c (simpleEscape c)), 1)

/-- The pieces up to the closing quote. The first argument counts the characters of an escape that
are still to be passed over. -/
def piecesFrom (quote : Char) : Nat → List Char → Option (List Piece × List Char)
  | _, [] => none
  | passed + 1, _ :: rest => piecesFrom quote passed rest
  | 0, c :: rest =>
    if c = quote then some ([], rest)
    else if c = '\\' then
      match escapeAt rest with
      | none => none
      | some (piece, length) =>
        (piecesFrom quote length rest).map fun (ps, after) => (piece.toList ++ ps, after)
    else if isLineEnd c then none
    else (piecesFrom quote 0 rest).map fun (ps, after) => (.plain c c :: ps, after)

/-- The pieces of a name as far as it goes, after its first one. -/
def nameFrom : Nat → List Char → List Piece × List Char
  | _, [] => ([], [])
  | passed + 1, _ :: rest => nameFrom passed rest
  | 0, c :: rest =>
    if continuesIdentifier c then
      let (ps, after) := nameFrom 0 rest
      (.plain c c :: ps, after)
    else if c = '\\' then
      match rest with
      | 'u' :: digits =>
        match hexDigits 4 digits with
        | some ds =>
          let (ps, after) := nameFrom 5 rest
          (.code ds :: ps, after)
        | none => ([], c :: rest)
      | _ => ([], c :: rest)
    else ([], c :: rest)

/-- The name of a member: an identifier or a string. -/
def key : List Char → Option (List Piece × List Char)
  | '"' :: rest => piecesFrom '"' 0 rest
  | '\x27' :: rest => piecesFrom '\x27' 0 rest
  | '\\' :: 'u' :: rest =>
    (hexDigits 4 rest).map fun ds =>
      let (ps, after) := nameFrom 0 (rest.drop 4)
      (.code ds :: ps, after)
  | c :: rest =>
    if startsIdentifier c then
      let (ps, after) := nameFrom 0 rest
      some (.plain c c :: ps, after)
    else none
  | [] => none

/-! ## Numbers -/

/-- A fixed word, if the text starts with it. -/
def word? (w cs : List Char) : Option (List Char) :=
  if w.isPrefixOf cs then some (cs.drop w.length) else none

/-- Splits a text after its first characters. -/
def takeOff (cs rest : List Char) : List Char × List Char := (cs.take (cs.length - rest.length), rest)

/-- The text behind an exponent, or the text itself where there is none. -/
def afterExponent (cs : List Char) : List Char :=
  match cs with
  | c :: rest =>
    if c = 'e' ∨ c = 'E' then
      let (_, ds) := FloatText.sign rest
      match ds with
      | d :: _ => if d.isDigit then ds.dropWhile Char.isDigit else cs
      | [] => cs
    else cs
  | [] => cs

/-- The text behind the whole digits of a number: a zero alone, or digits that do not start with
zero. -/
def afterWhole : List Char → Option (List Char)
  | '0' :: rest => some rest
  | c :: rest => if c.isDigit then some (rest.dropWhile Char.isDigit) else none
  | [] => none

/-- The text behind a number without its sign. -/
def afterNumber (cs : List Char) : Option (List Char) :=
  let hex := match cs with
    | '0' :: x :: d :: rest =>
      if (x = 'x' ∨ x = 'X') ∧ (hexValue? d).isSome then
        some (rest.dropWhile fun c => (hexValue? c).isSome)
      else none
    | _ => none
  match hex with
  | some rest => some rest
  | none =>
    match afterWhole cs with
    -- A point may end the number: no digit has to follow it.
    | some ('.' :: rest) => some (afterExponent (rest.dropWhile Char.isDigit))
    | some rest => some (afterExponent rest)
    | none =>
      match cs with
      | '.' :: d :: rest =>
        if d.isDigit then some (afterExponent (rest.dropWhile Char.isDigit)) else none
      | _ => (word? "Infinity".toList cs).orElse fun _ => word? "NaN".toList cs

/-- The source text of a number and what follows it. -/
def numberToken (cs : List Char) : Option (List Char × List Char) :=
  (afterNumber (FloatText.sign cs).2).map (takeOff cs)

/-! ## Values -/

/-- The values after the opening bracket of a list, up to and with the closing one. -/
def itemsFrom (value : List Char → Option (Json5 × List Char)) :
    List Char → Bool → List Char → Option (List Json5 × List Char)
  | [], _, _ => none
  | _ :: fuel, first, cs =>
    match skipGap cs with
    | none => none
    | some (']' :: rest) => some ([], rest)
    | some cs =>
      let next := match first, cs with
        | true, cs => some cs
        | false, ',' :: rest => skipGap rest
        | false, _ => none
      match next with
      | none => none
      | some (']' :: rest) => if first then none else some ([], rest)
      | some cs =>
        match value cs with
        | none => none
        | some (v, rest) => (itemsFrom value fuel false rest).map fun (vs, rest) => (v :: vs, rest)

/-- One member of an object. -/
def pair (value : List Char → Option (Json5 × List Char)) (cs : List Char) :
    Option ((List Piece × Json5) × List Char) :=
  match key cs with
  | none => none
  | some (name, rest) =>
    match skipGap rest with
    | some (':' :: rest) =>
      match skipGap rest with
      | none => none
      | some rest => (value rest).map fun (v, rest) => ((name, v), rest)
    | _ => none

/-- The members after the opening bracket of an object, up to and with the closing one. -/
def membersFrom (value : List Char → Option (Json5 × List Char)) :
    List Char → Bool → List Char → Option (List (List Piece × Json5) × List Char)
  | [], _, _ => none
  | _ :: fuel, first, cs =>
    match skipGap cs with
    | none => none
    | some ('\x7d' :: rest) => some ([], rest)
    | some cs =>
      let next := match first, cs with
        | true, cs => some cs
        | false, ',' :: rest => skipGap rest
        | false, _ => none
      match next with
      | none => none
      | some ('\x7d' :: rest) => if first then none else some ([], rest)
      | some cs =>
        match pair value cs with
        | none => none
        | some (m, rest) => (membersFrom value fuel false rest).map fun (ms, rest) => (m :: ms, rest)

/-- A value at the front of a text. Each level of nesting takes a character of the first argument. -/
def value : List Char → List Char → Option (Json5 × List Char)
  | [], _ => none
  | _ :: depth, cs =>
    match word? "null".toList cs with
    | some rest => some (.null, rest)
    | none =>
      match word? "true".toList cs with
      | some rest => some (.flag true, rest)
      | none =>
        match word? "false".toList cs with
        | some rest => some (.flag false, rest)
        | none =>
          match cs with
          | '"' :: rest => (piecesFrom '"' 0 rest).map fun (ps, rest) => (.text ps, rest)
          | '\x27' :: rest => (piecesFrom '\x27' 0 rest).map fun (ps, rest) => (.text ps, rest)
          | '\x7b' :: rest =>
            (membersFrom (value depth) rest true rest).map fun (ms, rest) => (.object ms, rest)
          | '[' :: rest =>
            (itemsFrom (value depth) rest true rest).map fun (vs, rest) => (.list vs, rest)
          | cs => (numberToken cs).map fun (source, rest) => (.number source, rest)

/-- The tree of a whole text. -/
def ofText (text : List Char) : Option Json5 :=
  match skipGap text with
  | none => none
  | some cs =>
    match value cs cs with
    | none => none
    | some (v, rest) =>
      match skipGap rest with
      | some [] => some v
      | _ => none

end Waterfall.Json5
