import Waterfall.Config.Basic
import Waterfall.Config.SettingsJson
import Waterfall.Svg.Picture
import Waterfall.Trace.Document

/-!
# Drawing a trace

The short ways from a trace document to its picture: with settings at hand, or with the few options
that a host page gives as a JSON object. A document that is no trace is an error; spans that form no
trace are drawn as a panel with the defect.
-/

namespace Waterfall

namespace Config

/-- The layout of spans under these settings. -/
def layOut (c : Config) (spans : List Span) : TraceLayout :=
  .computeOrError spans c.theme c.layout c.width

/-- The picture of spans under these settings, as SVG text. -/
def draw (c : Config) (spans : List Span) : String :=
  renderSvg (c.layOut spans) c.theme c.layout

end Config

/-- The picture of the trace in a document, as SVG text. -/
def renderTrace (input : String) (c : Config) : Except TraceError String :=
  (parseTrace input).map c.draw

/-! ## Options of a host page -/

/-- What a host page may set. -/
structure HostOptions where
  theme : Option String := none
  fontFamily : Option String := none
  fontSize : Option Float32 := none
  width : Option Float32 := none

/-- Why a host page gets no picture. -/
inductive HostError where
  | options (text : List Char) (f : Json.Failure)
  | trace (e : TraceError)

def HostError.message : HostError → String
  | .options text f => f.message text
  | .trace e => e.message

namespace HostOptions

open Json in
def reader : Reader HostOptions := do
  let (theme, fontFamily, fontSize, width, ()) ← readRecord "struct TraceRenderOptions"
    (.cons (maybe "theme" readText) <|
     .cons (maybe "fontFamily" readText) <|
     .cons (maybe "fontSize" readSingle) <|
     .cons (maybe "width" readSingle) .nil)
  return { theme, fontFamily, fontSize, width }

/-- The options in a text. -/
def ofText (text : String) : Except HostError HostOptions :=
  (Json.readAll reader text.toList).mapError (.options text.toList)

/-- The modern theme by its name, and the classic one under any other name or none. -/
def baseTheme (o : HostOptions) : Theme :=
  if o.theme == some "modern" then .modern else .classic

/-- The settings that the options stand for. -/
def toConfig (o : HostOptions) : Config where
  theme := { o.baseTheme with
    fontFamily := o.fontFamily.getD o.baseTheme.fontFamily
    fontSize := o.fontSize.getD o.baseTheme.fontSize }
  width := o.width.getD ({} : Config).width

end HostOptions

/-- The picture of the trace in a document for a host page, which may give its options as text. -/
def renderForHost (input : String) (options : Option String) : Except HostError String := do
  let o ← match options with
    | some text => HostOptions.ofText text
    | none => pure {}
  (renderTrace input o.toConfig).mapError .trace

end Waterfall
