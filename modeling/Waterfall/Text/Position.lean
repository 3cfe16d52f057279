/-!
# Positions in a text

A place in a text is counted in bytes of its UTF-8 form. `Position.after` turns such a count into a
line and a column; both a line feed and the bytes before the place are counted, so a place just
after a line feed is column `0` of the next line.
-/

namespace Waterfall

/-- The bytes a text takes in UTF-8. -/
def byteCount : List Char → Nat
  | [] => 0
  | c :: cs => c.utf8Size + byteCount cs

structure Position where
  line : Nat
  column : Nat
  deriving DecidableEq, Repr

namespace Position

def start : Position := ⟨1, 0⟩

/-- The position once `bytes` more bytes of the text have been passed; a character may be passed in
part. -/
def advance (p : Position) : List Char → Nat → Position
  | [], _ => p
  | _, 0 => p
  | c :: rest, bytes + 1 =>
    if c = '\n' then advance ⟨p.line + 1, 0⟩ rest bytes
    else advance ⟨p.line, p.column + min c.utf8Size (bytes + 1)⟩ rest (bytes + 1 - c.utf8Size)

/-- The position after the first `bytes` bytes of a text. -/
def after (cs : List Char) (bytes : Nat) : Position := start.advance cs bytes

end Position

end Waterfall
