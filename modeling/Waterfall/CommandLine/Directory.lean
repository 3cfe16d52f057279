/-!
# Files by path

A directory as a run of the program finds it: all files there are, each with its bytes, and the place of
the directory among them. A path is followed part by part, from the directory or, if it begins with a
slash, from the root. Reading it gives the bytes of a file, writing it makes or replaces one. Of
directories only those are known that lead to a file or to the directory itself.
-/

namespace Waterfall.CommandLine

abbrev Bytes := List UInt8

/-- Why a file cannot be read or written. -/
inductive FileFault where
  | notFound
  | notADirectory
  | isADirectory
  | nameTooLong
  | notText
  /-- Anything else, in the words of the system. -/
  | other (description : String)
  deriving DecidableEq, Repr

def FileFault.message : FileFault → String
  | .notFound => "No such file or directory (os error 2)"
  | .notADirectory => "Not a directory (os error 20)"
  | .isADirectory => "Is a directory (os error 21)"
  | .nameTooLong => "File name too long (os error 36)"
  | .notText => "stream did not contain valid UTF-8"
  | .other description => description

/-- The text that bytes stand for. -/
def textOfBytes (bytes : Bytes) : Except FileFault String :=
  match String.fromUTF8? bytes.toByteArray with
  | some s => .ok s
  | none => .error .notText

def bytesOfText (s : String) : Bytes := s.toUTF8.toList

/-- The names of the directories that lead from the root to a file or a directory, and its own. -/
abbrev Place := List String

namespace Place

/-- The bytes that a part of a path may have. -/
def mostNameBytes : Nat := 255

/-- The place that a part of a path leads to from a directory. The root is above itself. -/
def step (place : Place) (part : String) : Except FileFault Place :=
  if part = "" ∨ part = "." then .ok place
  else if part = ".." then .ok place.dropLast
  else if mostNameBytes < part.utf8ByteSize then .error .nameTooLong
  else .ok (place ++ [part])

end Place

structure Directory where
  files : List (Place × Bytes) := []
  /-- Where the directory is. -/
  place : Place := []

/-- The parts of a path between its slashes. -/
def pathParts (path : String) : List String :=
  (path.toList.splitOn '/').map String.ofList

/-- Whether a path is no more than a name, but for slashes and dots at its end. -/
def isBareName (name path : String) : Bool :=
  match pathParts path with
  | [] => false
  | first :: rest => first == name && rest.all fun part => part == "" || part == "."

namespace Directory

/-- Whether a directory stands in a place. -/
def isDirectory (d : Directory) (place : Place) : Bool :=
  place.isPrefixOf d.place || d.files.any fun f => place.isPrefixOf f.1 && place.length < f.1.length

/-- The bytes of the file in a place. -/
def fileAt? (d : Directory) (place : Place) : Option Bytes := d.files.lookup place

/-- Follows the parts of a path from a place. -/
def follow (d : Directory) : Place → List String → Except FileFault Place
  | place, [] => .ok place
  | place, part :: parts =>
    -- Even a dot or two can only be followed out of a directory.
    if d.isDirectory place then do d.follow (← place.step part) parts
    else if (d.fileAt? place).isSome then .error .notADirectory
    else .error .notFound

/-- The bytes that a whole path may have. -/
def mostPathBytes : Nat := 4095

/-- Where the parts of a path are followed from. No step is taken on a path that is too long. -/
def start (d : Directory) (path : String) : Except FileFault Place :=
  if mostPathBytes < path.utf8ByteSize then .error .nameTooLong
  else
    match path.toList with
    | '/' :: _ => .ok []
    | _ => .ok d.place

/-- The bytes of the file that a path leads to. -/
def read (d : Directory) (path : String) : Except FileFault Bytes := do
  let place ← d.follow (← d.start path) (pathParts path)
  match d.fileAt? place with
  | some bytes => return bytes
  | none => .error (if d.isDirectory place then .isADirectory else .notFound)

/-- The place where a path makes or replaces a file. Directories are not made, and a slash at the end
asks for one. -/
def target (d : Directory) (path : String) : Except FileFault Place := do
  let all := pathParts path
  -- Slashes at the end name nothing of their own.
  let named := (all.reverse.dropWhile (· = "")).reverse
  let place ← d.follow (← d.follow (← d.start path) named.dropLast) named.getLast?.toList
  if named.length < all.length ∨ d.isDirectory place then .error .isADirectory else return place

/-- The files with another one, which replaces what stood in its place. -/
def put (d : Directory) (place : Place) (bytes : Bytes) : Directory :=
  { d with files := (place, bytes) :: d.files.filter (·.1 ≠ place) }

/-- Makes or replaces the file that a path leads to. -/
def write (d : Directory) (path : String) (bytes : Bytes) : Except FileFault Directory :=
  return d.put (← d.target path) bytes

/-- A directory that holds files by name, somewhere below the root. -/
def ofList (files : List (String × Bytes)) (place : Place := ["tmp", "run"]) : Directory where
  files := files.map fun (name, bytes) => (place ++ (pathParts name).filter (· ≠ ""), bytes)
  place

/-- A file that has been put in a place stands there. -/
@[simp]
theorem fileAt?_put (d : Directory) (place : Place) (bytes : Bytes) :
    (d.put place bytes).fileAt? place = some bytes := by
  simp [fileAt?, put]

/-- The files in other places stay as they are. -/
theorem fileAt?_put_of_ne (d : Directory) {place other : Place} (bytes : Bytes) (h : other ≠ place) :
    (d.put place bytes).fileAt? other = d.fileAt? other := by
  have hhead : (other == place) = false := beq_eq_false_iff_ne.mpr h
  simp only [fileAt?, put, List.lookup_cons, hhead]
  induction d.files with
  | nil => rfl
  | cons f rest ih =>
    obtain ⟨p, b⟩ := f
    by_cases hp : p = place
    · subst hp
      simpa [List.lookup_cons, hhead] using ih
    · cases ho : other == p with
      | true => simp [List.lookup_cons, hp, ho]
      | false => simpa [List.lookup_cons, hp, ho] using ih

end Directory

end Waterfall.CommandLine
