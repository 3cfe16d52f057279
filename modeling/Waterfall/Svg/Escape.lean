/-!
# Text in XML

Five characters have a meaning in XML and are written as entities in text and attribute values.
`escape` writes them, `unescape` reads them back. Replacing the characters one after another over
the whole text gives the same result, as long as the ampersand comes first (`escapeInTurn`).
-/

namespace Waterfall.Xml

/-- The entity of a character, if it needs one. -/
def entity? (c : Char) : Option (List Char) :=
  if c = '&' then some "&amp;".toList
  else if c = '<' then some "&lt;".toList
  else if c = '>' then some "&gt;".toList
  else if c = '"' then some "&quot;".toList
  else if c = '\x27' then some "&apos;".toList
  else none

/-- One character of escaped text. -/
def escapeChar (c : Char) : List Char := (entity? c).getD [c]

/-- Text with entities for the characters that need them. -/
def escape (cs : List Char) : List Char := cs.flatMap escapeChar

/-- All occurrences of a character replaced by a text. -/
def replaceAll (c : Char) (by_ : List Char) (cs : List Char) : List Char :=
  cs.flatMap fun d => if d = c then by_ else [d]

/-- The five characters replaced one after another. -/
def escapeInTurn (cs : List Char) : List Char :=
  replaceAll '\x27' "&apos;".toList <| replaceAll '"' "&quot;".toList <|
    replaceAll '>' "&gt;".toList <| replaceAll '<' "&lt;".toList <| replaceAll '&' "&amp;".toList cs

/-- Reads the five entities; anything else stands for itself. -/
def unescape : List Char → List Char
  | '&' :: 'a' :: 'm' :: 'p' :: ';' :: rest => '&' :: unescape rest
  | '&' :: 'l' :: 't' :: ';' :: rest => '<' :: unescape rest
  | '&' :: 'g' :: 't' :: ';' :: rest => '>' :: unescape rest
  | '&' :: 'q' :: 'u' :: 'o' :: 't' :: ';' :: rest => '"' :: unescape rest
  | '&' :: 'a' :: 'p' :: 'o' :: 's' :: ';' :: rest => '\x27' :: unescape rest
  | c :: rest => c :: unescape rest
  | [] => []

/-- The escaped form of a text. -/
def escaped (s : String) : String := .ofList (escape s.toList)

theorem escape_append (a b : List Char) : escape (a ++ b) = escape a ++ escape b := by
  simp [escape]

end Waterfall.Xml
