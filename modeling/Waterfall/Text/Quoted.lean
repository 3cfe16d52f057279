import Waterfall.Text.Printable

/-!
# Quoted text for messages

How a message shows a text that it complains about: in double quotes, with the quote, the backslash
and the common controls escaped by a letter, and every other character without a visible form
written by its number.
-/

namespace Waterfall.Quoted

/-- A number in hexadecimal, small letters. -/
def hex (n : Nat) : List Char := Nat.toDigits 16 n

/-- One character inside the quotes. -/
def escape (c : Char) : List Char :=
  if c = '"' then ['\\', '"']
  else if c = '\\' then ['\\', '\\']
  else if c = '\t' then ['\\', 't']
  else if c = '\r' then ['\\', 'r']
  else if c = '\n' then ['\\', 'n']
  else if c.toNat = 0 then ['\\', '0']
  else if isEscaped c then "\\u\x7b".toList ++ hex c.toNat ++ ['\x7d']
  else [c]

/-- A text in quotes. -/
def quote (cs : List Char) : List Char := '"' :: cs.flatMap escape ++ ['"']

end Waterfall.Quoted
