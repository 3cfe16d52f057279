import Waterfall.CommandLine.Arguments
import Waterfall.CommandLine.Directory
import Waterfall.CommandLine.Run
import Waterfall.Config.Basic
import Waterfall.Config.Overlay
import Waterfall.Config.SettingsJson
import Waterfall.Decode.Fields
import Waterfall.Decode.Mismatch
import Waterfall.Decode.Tree
import Waterfall.Drawing
import Waterfall.Json.Basic
import Waterfall.Json.Document
import Waterfall.Json.Fault
import Waterfall.Json.NumberToken
import Waterfall.Json.Printer
import Waterfall.Json.StringToken
import Waterfall.Json.Typed
import Waterfall.Json5.Grammar
import Waterfall.Json5.Tree
import Waterfall.Json5.Typed
import Waterfall.Layout.Axis
import Waterfall.Layout.Basic
import Waterfall.Layout.Colors
import Waterfall.Layout.Connector
import Waterfall.Layout.Dump
import Waterfall.Layout.Label
import Waterfall.Layout.Legend
import Waterfall.Layout.Node
import Waterfall.Layout.Row
import Waterfall.Layout.Tick
import Waterfall.Main
import Waterfall.Number.Binary
import Waterfall.Number.Decade
import Waterfall.Number.Decimal
import Waterfall.Number.FloatText
import Waterfall.Number.Power
import Waterfall.Number.Shortest
import Waterfall.Number.Tie
import Waterfall.Registry
import Waterfall.Search.Debouncer
import Waterfall.Search.RequestSequence
import Waterfall.Svg.Escape
import Waterfall.Svg.Picture
import Waterfall.Svg.Style
import Waterfall.Text.Blank
import Waterfall.Text.Letter
import Waterfall.Text.Position
import Waterfall.Text.Printable
import Waterfall.Text.Quoted
import Waterfall.Text.Runs
import Waterfall.Theme
import Waterfall.Trace.Calendar
import Waterfall.Trace.Detail
import Waterfall.Trace.Document
import Waterfall.Trace.Error
import Waterfall.Trace.Record
import Waterfall.Trace.Resolve
import Waterfall.Trace.Scalar
import Waterfall.Trace.Span
import Waterfall.Trace.SpanJson
import Waterfall.Trace.Structure
import Waterfall.Trace.Time
import Waterfall.Trace.Timestamp
import Waterfall.View
import Waterfall.Proofs.CommandLine.Delivery
import Waterfall.Proofs.CommandLine.OnePicture
import Waterfall.Proofs.CommandLine.Paths
import Waterfall.Proofs.Config.Settings
import Waterfall.Proofs.Decode.Agreement
import Waterfall.Proofs.Decode.Forms
import Waterfall.Proofs.Decode.Records
import Waterfall.Proofs.Json.Arranging
import Waterfall.Proofs.Json.Indenting
import Waterfall.Proofs.Json.Printing
import Waterfall.Proofs.Json.Reading
import Waterfall.Proofs.Json.RealNumber
import Waterfall.Proofs.Json.Recognition
import Waterfall.Proofs.Json.Spelling
import Waterfall.Proofs.Json.Typed
import Waterfall.Proofs.Layout.ActorRank
import Waterfall.Proofs.Layout.AxisEnd
import Waterfall.Proofs.Layout.Clipping
import Waterfall.Proofs.Layout.Connection
import Waterfall.Proofs.Layout.Dependence
import Waterfall.Proofs.Layout.DumpReading
import Waterfall.Proofs.Layout.Equivariance
import Waterfall.Proofs.Layout.ExactTimes
import Waterfall.Proofs.Layout.Growth
import Waterfall.Proofs.Layout.Packing
import Waterfall.Proofs.Layout.Palette
import Waterfall.Proofs.Layout.Polyline
import Waterfall.Proofs.Layout.Renaming
import Waterfall.Proofs.Layout.SpanOrder
import Waterfall.Proofs.Layout.TickEnd
import Waterfall.Proofs.Layout.TimeShift
import Waterfall.Proofs.Number.Characters
import Waterfall.Proofs.Number.DigitOrder
import Waterfall.Proofs.Number.Digits
import Waterfall.Proofs.Number.DoubleRange
import Waterfall.Proofs.Number.LargeWhole
import Waterfall.Proofs.Number.ShortestSingle
import Waterfall.Proofs.Number.ShortestWhole
import Waterfall.Proofs.Number.SingleOrder
import Waterfall.Proofs.Number.WholeDouble
import Waterfall.Proofs.Search.QuietPeriods
import Waterfall.Proofs.Search.Requests
import Waterfall.Proofs.Svg.Attributes
import Waterfall.Proofs.Svg.Carried
import Waterfall.Proofs.Svg.Characters
import Waterfall.Proofs.Svg.Document
import Waterfall.Proofs.Svg.Entities
import Waterfall.Proofs.Svg.ErrorPanel
import Waterfall.Proofs.Svg.Escaping
import Waterfall.Proofs.Svg.Holes
import Waterfall.Proofs.Svg.Markup
import Waterfall.Proofs.Svg.Shape
import Waterfall.Proofs.Trace.Alike
import Waterfall.Proofs.Trace.Changes
import Waterfall.Proofs.Trace.FirstDefect
import Waterfall.Proofs.Trace.FirstFailure
import Waterfall.Proofs.Trace.Forest
import Waterfall.Proofs.Trace.Gregorian
import Waterfall.Proofs.Trace.Milliseconds
import Waterfall.Proofs.Trace.MissingFields
import Waterfall.Proofs.Trace.NormalForm
import Waterfall.Proofs.Trace.NumericIds
import Waterfall.Proofs.Trace.Parents
import Waterfall.Proofs.Trace.Parts
import Waterfall.Proofs.Trace.Places
import Waterfall.Proofs.Trace.Quoting
import Waterfall.Proofs.Trace.Reshaping
import Waterfall.Proofs.Trace.SpanText
import Waterfall.Proofs.Trace.TimestampText
import Waterfall.Proofs.View.Coherence
import Waterfall.Proofs.View.Lookup
import Waterfall.Proofs.View.Room
import Waterfall.Proofs.View.Slots
