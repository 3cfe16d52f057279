import Waterfall.Number.FloatText

/-!
# Arguments

The arguments of the program are options only, each at most once, and switches. An option takes its
value from the same argument or from the next one; a value in an argument of its own is looked at
when the next option begins or the arguments end. `Arguments.ofList` reads a command line or says
why it stops.
-/

namespace Waterfall.CommandLine

inductive OutputFormat where
  | svg
  | png
  | json
  deriving DecidableEq, Repr

namespace OutputFormat

def name : OutputFormat → String
  | .svg => "svg"
  | .png => "png"
  | .json => "json"

def ofName? (name : String) : Option OutputFormat :=
  [svg, png, json].find? (·.name == name)

end OutputFormat

/-- What a command line asks for. -/
structure Arguments where
  input : Option String := none
  output : Option String := none
  settings : Option String := none
  format : Option OutputFormat := none
  width : Option Float32 := none
  span : Option String := none
  verbosity : Nat := 0

/-- Pictures are drawn unless another format is asked for. -/
def Arguments.outputFormat (a : Arguments) : OutputFormat := a.format.getD .svg

/-- What is wrong with a command line. -/
inductive Misuse where
  | unknownArgument
  /-- An option without its value, or a value that it does not take. -/
  | invalidValue
  /-- A width that is no number. -/
  | notANumber
  | repeatedOption
  /-- A value given to a switch. -/
  | unexpectedValue
  deriving DecidableEq, Repr

def Misuse.message : Misuse → String
  | .unknownArgument => "unexpected argument found"
  | .invalidValue => "an option is without its value or has one that it does not take"
  | .notANumber => "the width is no number"
  | .repeatedOption => "an option is given more than once"
  | .unexpectedValue => "a switch takes no value"

/-- Why a command line is not run. -/
inductive Stop where
  | misuse (m : Misuse)
  | help
  | version
  deriving DecidableEq, Repr

inductive ValueOption where
  | input
  | output
  | settings
  | format
  | width
  | span
  deriving DecidableEq, Repr

inductive Switch where
  | verbose
  | help
  | version
  deriving DecidableEq, Repr

/-- An option with a value, or a switch. -/
inductive Flag where
  | option (o : ValueOption)
  | switch (s : Switch)

/-- The flag of a long name. -/
def Flag.ofName? (name : String) : Option Flag :=
  [("input", .option .input), ("output", .option .output), ("outputFormat", .option .format),
   ("configFile", .option .settings), ("width", .option .width), ("span", .option .span),
   ("verbose", .switch .verbose), ("help", .switch .help), ("version", .switch .version)].lookup name

/-- The flag of a letter. -/
def Flag.ofLetter? (letter : Char) : Option Flag :=
  [('i', .option .input), ('o', .option .output), ('e', .option .format), ('c', .option .settings),
   ('w', .option .width), ('v', .switch .verbose), ('h', .switch .help),
   ('V', .switch .version)].lookup letter

namespace ValueOption

/-- Whether an option has been given its value. -/
def isGiven (a : Arguments) : ValueOption → Bool
  | .input => a.input.isSome
  | .output => a.output.isSome
  | .settings => a.settings.isSome
  | .format => a.format.isSome
  | .width => a.width.isSome
  | .span => a.span.isSome

/-- A path must not be empty. -/
def path (value : String) : Except Stop (Option String) :=
  if value.isEmpty then .error (.misuse .invalidValue) else .ok (some value)

/-- Gives an option its value. -/
def take (a : Arguments) (value : String) : ValueOption → Except Stop Arguments
  | .input => (path value).map fun p => { a with input := p }
  | .output => (path value).map fun p => { a with output := p }
  | .settings => (path value).map fun p => { a with settings := p }
  | .format =>
    match OutputFormat.ofName? value with
    | some f => .ok { a with format := some f }
    | none => .error (.misuse .invalidValue)
  | .width =>
    match FloatText.parse? value.toList with
    | some x => .ok { a with width := some x.toFloat32 }
    | none => .error (.misuse .notANumber)
  | .span => .ok { a with span := some value }

/-- Gives an option the value that belongs to it, which must be there and the first. -/
def settle (a : Arguments) (o : ValueOption) : Option String → Except Stop Arguments
  | none => .error (.misuse .invalidValue)
  | some value => if o.isGiven a then .error (.misuse .repeatedOption) else o.take a value

end ValueOption

/-- The arguments read so far, and the option that waits for its value or for its value to be looked
at. -/
structure Progress where
  arguments : Arguments := {}
  waiting : Option (ValueOption × Option String) := none

namespace Progress

/-- The arguments once the option that waits is settled. -/
def settled (p : Progress) : Except Stop Arguments :=
  match p.waiting with
  | none => .ok p.arguments
  | some (o, value) => o.settle p.arguments value

/-- Verbosity is counted up to this. -/
def mostVerbose : Nat := 255

/-- A switch that stands in the arguments. -/
def switch (p : Progress) : Switch → Except Stop Progress
  | .verbose => do
    let a ← p.settled
    return { arguments := { a with verbosity := min (a.verbosity + 1) mostVerbose } }
  | .help => do
    let _ ← p.settled
    .error .help
  | .version => do
    let _ ← p.settled
    .error .version

/-- An option that stands in the arguments, with its value if it has it with it. -/
def option (p : Progress) (o : ValueOption) (attached : Option String) : Except Stop Progress := do
  let a ← p.settled
  match attached with
  | none => return { arguments := a, waiting := some (o, none) }
  -- A value in the same argument is looked at right away.
  | some value => return { arguments := ← o.settle a (some value) }

/-- An argument with a long name, and what stands behind its equals sign. -/
def long (p : Progress) (name : String) (attached : Option String) : Except Stop Progress :=
  match Flag.ofName? name with
  | none => .error (.misuse .unknownArgument)
  | some (.option o) => p.option o attached
  | some (.switch s) => if attached.isSome then .error (.misuse .unexpectedValue) else p.switch s

/-- The value in the same argument as the letter of its option; an equals sign may stand between. -/
def attachedValue : List Char → Option String
  | [] => none
  | '=' :: cs => some (.ofList cs)
  | cs => some (.ofList cs)

/-- An argument of letters: switches, and at last perhaps an option with its value. -/
def letters : Progress → List Char → Except Stop Progress
  | p, [] => .ok p
  | p, c :: cs =>
    match Flag.ofLetter? c with
    | none => .error (.misuse .unknownArgument)
    | some (.option o) => p.option o (attachedValue cs)
    | some (.switch s) => do letters (← p.switch s) cs

/-- An argument that is no flag: the value of the option that waits for one. -/
def word (p : Progress) (value : String) : Except Stop Progress :=
  match p.waiting with
  | some (o, none) => .ok { p with waiting := some (o, some value) }
  | _ => .error (.misuse .unknownArgument)

/-- One argument. -/
def argument (p : Progress) (arg : String) : Except Stop Progress :=
  match arg.toList with
  | '-' :: '-' :: cs =>
    let (name, rest) := cs.span (· ≠ '=')
    p.long (.ofList name) (match rest with
      | [] => none
      | _ :: value => some (.ofList value))
  | '-' :: c :: cs => p.letters (c :: cs)
  | _ => p.word arg

/-- All arguments. After two dashes there may be no more of them. -/
def run : Progress → List String → Except Stop Arguments
  | p, [] => p.settled
  | p, arg :: rest =>
    if arg = "--" then
      -- What follows would be a word, and the program takes none.
      if rest.isEmpty then p.settled else .error (.misuse .unknownArgument)
    else do run (← p.argument arg) rest

end Progress

/-- What the arguments of a command line ask for. -/
def Arguments.ofList (args : List String) : Except Stop Arguments := Progress.run {} args

end Waterfall.CommandLine
