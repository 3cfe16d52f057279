import Waterfall.CommandLine.Arguments
import Waterfall.CommandLine.Directory
import Waterfall.Config.Overlay
import Waterfall.Drawing
import Waterfall.Layout.Dump
import Waterfall.Trace.Detail

/-!
# A run of the program

A run reads settings and a trace and delivers a picture, a dump or the panel of one span. It reaches
files and streams only through a `Host`. What is delivered is decided without the host (`product`);
nothing is delivered when settings, trace or request are at fault, but a trace that cannot be laid
out is delivered as its error panel before the run fails.
-/

namespace Waterfall.CommandLine

/-- The effects of a run. -/
structure Host (m : Type → Type) where
  readFile : String → m (Except FileFault Bytes)
  /-- All of the standard input. -/
  readInput : m Bytes
  writeFile : String → Bytes → m (Except FileFault Unit)
  /-- Writes to the standard output. -/
  print : String → m Unit

/-- Why a run fails. -/
inductive RunFailure where
  | file (f : FileFault)
  | settings (e : ConfigError)
  | trace (e : TraceError)
  | noSpan (id : String)
  /-- The format cannot be printed. -/
  | noOutput (f : OutputFormat)
  | badWidth (width : Float32)
  /-- Bitmaps are not drawn. -/
  | noBitmap
  /-- The error panel has been delivered. -/
  | notLaidOut (message : String)

def RunFailure.message : RunFailure → String
  | .file f => f.message
  | .settings .notJson5 => "the settings are not JSON5"
  | .settings (.data fault) => fault.message
  | .trace e => e.message
  | .noSpan id => "No span with id " ++ ticked id ++ " in trace"
  | .noOutput f => "Output path required for " ++ f.name ++ " output"
  | .badWidth width => "Invalid render width " ++ textOfSingle width
  | .noBitmap => "PNG output is not supported"
  | .notLaidOut message => message

/-- What a run delivers. -/
structure Product where
  text : String
  /-- What follows the text when it is printed and not written to a file. -/
  whenPrinted : String := ""
  /-- What is wrong all the same. -/
  complaint : Option String := none

namespace Product

/-- The panel of a span. -/
def ofDetail (d : SpanDetail) : Product := { text := d.toJson.toPrettyText, whenPrinted := "\n" }

/-- The picture of a layout. -/
def picture (c : Config) (l : TraceLayout) : Product where
  text := renderSvg l c.theme c.layout
  complaint := l.error.map (·.message)

/-- The dump of a layout. -/
def dump (l : TraceLayout) : Product where
  text := l.dump
  whenPrinted := "\n"
  complaint := l.error.map (·.message)

end Product

/-- Whether a bitmap can have a width: it and its half are positive and finite. -/
def drawableWidth (width : Float32) : Bool := width.isFinite && 0 < width / 2

namespace Arguments

/-- The settings, with the width that was asked for. -/
def adjust (a : Arguments) (c : Config) : Config := { c with width := a.width.getD c.width }

/-- The fault of asking for a bitmap. -/
def bitmapFailure (a : Arguments) (c : Config) : RunFailure :=
  if a.output.isNone then .noOutput .png
  else if drawableWidth c.width then .noBitmap
  else .badWidth c.width

/-- What a run delivers for a trace. -/
def product (a : Arguments) (c : Config) (spans : List Span) : Except RunFailure Product :=
  match a.span with
  | some id =>
    match findDetail? spans id with
    | some d => .ok (.ofDetail d)
    | none => .error (.noSpan id)
  | none =>
    match a.outputFormat with
    | .svg => .ok (.picture c (c.layOut spans))
    | .json => .ok (.dump (c.layOut spans))
    | .png => .error (a.bitmapFailure c)

end Arguments

section Effects

variable {m : Type → Type} [Monad m]

/-- A file as text. -/
def Host.readText (host : Host m) (path : String) : ExceptT RunFailure m String := do
  let bytes ← ExceptT.mk (return (← host.readFile path).mapError .file)
  ExceptT.mk (return (textOfBytes bytes).mapError .file)

/-- The settings of a run: the defaults, or those of a file. -/
def Host.loadConfig (host : Host m) (path : Option String) : ExceptT RunFailure m Config := do
  match path with
  | none => return {}
  | some path =>
    let text ← host.readText path
    ExceptT.mk (return (parseConfig text).mapError .settings)

/-- The text of the trace, out of a file or, by default or for a path that is just a dash, from the
standard input. -/
def Host.readTrace (host : Host m) (path : Option String) : ExceptT RunFailure m String := do
  match path.filter fun p => !isBareName "-" p with
  | some path => host.readText path
  | none => do
    let bytes ← ExceptT.lift host.readInput
    ExceptT.mk (return (textOfBytes bytes).mapError .file)

/-- Delivers to a file or to the standard output, and complains after that. -/
def Host.deliver (host : Host m) (output : Option String) (p : Product) : ExceptT RunFailure m Unit := do
  match output with
  | some path => ExceptT.mk (return (← host.writeFile path (bytesOfText p.text)).mapError .file)
  | none => ExceptT.lift (host.print (p.text ++ p.whenPrinted))
  -- The panel has been delivered by now; the run fails all the same.
  match p.complaint with
  | some message => throw (.notLaidOut message)
  | none => return ()

/-- A run with arguments that have been read. -/
def Arguments.execute (host : Host m) (a : Arguments) : ExceptT RunFailure m Unit := do
  let c ← host.loadConfig a.settings
  let text ← host.readTrace a.input
  let spans ← ExceptT.mk (return (parseTrace text).mapError .trace)
  let p ← ExceptT.mk (return a.product (a.adjust c) spans)
  host.deliver a.output p

end Effects

/-! ## From the command line to the exit code -/

/-- How a run ends. -/
structure Outcome where
  exitCode : Nat
  /-- What is written to the standard error. -/
  complaint : Option String := none
  deriving DecidableEq, Repr

def helpText : String := "\n".intercalate [
  "Render a distributed trace as a span waterfall",
  "",
  "Usage: tsr [OPTIONS]",
  "",
  "Options:",
  "  -i, --input <INPUT>                 Input trace JSON file or '-' for stdin",
  "  -o, --output <OUTPUT>               Output file. Defaults to stdout for SVG and JSON if omitted",
  "  -e, --outputFormat <OUTPUT_FORMAT>  Output format [default: svg] [possible values: svg, png, json]",
  "  -c, --configFile <CONFIG>           Config file (JSON or JSON5)",
  "  -w, --width <WIDTH>                 Container width in pixels",
  "      --span <SPAN>                   Print the detail panel of one span (by id) as JSON instead of rendering",
  "  -v, --verbose...                    Increase log verbosity (-v debug, -vv trace)",
  "  -h, --help                          Print help",
  "  -V, --version                       Print version",
  ""]

def versionText : String := "tsr 0.1.0\n"

/-- A run from the command line: asking for help or the version is no failure, arguments that cannot
be read end it with code 2, and any other failure with code 1. -/
def run {m : Type → Type} [Monad m] (host : Host m) (args : List String) : m Outcome := do
  match Arguments.ofList args with
  | .error .help => do
    host.print helpText
    return ⟨0, none⟩
  | .error .version => do
    host.print versionText
    return ⟨0, none⟩
  | .error (.misuse e) => return ⟨2, some ("error: " ++ e.message)⟩
  | .ok a =>
    match ← (a.execute host).run with
    | .ok () => return ⟨0, none⟩
    | .error f => return ⟨1, some ("error: " ++ f.message)⟩

/-! ## A run in a directory -/

/-- What a run finds and leaves behind. -/
structure Surroundings where
  directory : Directory
  input : Bytes := []
  printed : String := ""

/-- The effects of a run on its surroundings. -/
def Surroundings.host : Host (StateM Surroundings) where
  readFile path := return (← get).directory.read path
  readInput := modifyGet fun s => (s.input, { s with input := [] })
  writeFile path bytes := do
    match (← get).directory.write path bytes with
    | .ok directory =>
      modify ({ · with directory })
      return .ok ()
    | .error f => return .error f
  print text := modify fun s => { s with printed := s.printed ++ text }

/-- A run in its surroundings. -/
def runIn (args : List String) (s : Surroundings) : Outcome × Surroundings :=
  (run Surroundings.host args).run s

end Waterfall.CommandLine
