import Waterfall.CommandLine.Run

/-!
# The program

Runs the command line against the files and streams of the system.
-/

namespace Waterfall.CommandLine

/-- What an error number of the system means for a file, in the words that come with it. -/
def faultOfNumber (number : UInt32) (description : String) : FileFault :=
  -- Some calls of the system give the negative of the number.
  let number := if number < 0x80000000 then number else 0 - number
  if number = 2 then .notFound
  else if number = 20 then .notADirectory
  else if number = 21 then .isADirectory
  else if number = 36 then .nameTooLong
  else .other (description ++ " (os error " ++ toString number.toNat ++ ")")

/-- What a fault of the system means for a file. -/
def faultOfSystem : IO.Error → FileFault
  | .noFileOrDirectory _ n d | .inappropriateType _ n d | .invalidArgument _ n d
  | .permissionDenied _ n d | .resourceExhausted _ n d | .alreadyExists _ n d
  | .noSuchThing _ n d | .interrupted _ n d | .resourceBusy n d | .unsupportedOperation n d
  | .hardwareFault n d | .otherError n d => faultOfNumber n d
  | e => .other (toString e)

/-- An action on a file, with its fault as a value. -/
def attempt {α : Type} (action : IO α) : IO (Except FileFault α) := do
  try return .ok (← action)
  catch e => return .error (faultOfSystem e)

/-- Reads a stream up to its end. -/
partial def readToEnd (stream : IO.FS.Stream) (soFar : ByteArray) : IO ByteArray := do
  let chunk ← stream.read 65536
  if chunk.isEmpty then return soFar else readToEnd stream (soFar ++ chunk)

/-- The effects of a run on the system. -/
def systemHost : Host IO where
  readFile path := attempt do return (← IO.FS.readBinFile path).toList
  readInput := do return (← readToEnd (← IO.getStdin) .empty).toList
  writeFile path bytes := attempt (IO.FS.writeBinFile path bytes.toByteArray)
  print text := do (← IO.getStdout).putStr text

end Waterfall.CommandLine

open Waterfall.CommandLine in
/-- Runs the command line and ends with its exit code. -/
def main (args : List String) : IO UInt32 := do
  let outcome ← run systemHost args
  if let some complaint := outcome.complaint then IO.eprintln complaint
  return outcome.exitCode.toUInt32
