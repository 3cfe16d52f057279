import Waterfall.Text.Blank
import Waterfall.Trace.Time

/-!
# Spans

One timed operation of a distributed trace, with its parent already resolved, and what it carries:
tags, log entries and references to spans of other segments or traces.
-/

namespace Waterfall

/-- The side of a call that a span stands for. -/
inductive SpanKind where
  | entry
  | exit
  | internal
  deriving DecidableEq, Repr

namespace SpanKind

def name : SpanKind → String
  | .entry => "Entry"
  | .exit => "Exit"
  | .internal => "Local"

def all : List SpanKind := [.entry, .exit, .internal]

/-- The kind written in any case, with blanks around it allowed. -/
def ofToken? (token : String) : Option SpanKind :=
  let word := String.ofList ((trimBlank token.toList).map Char.toLower)
  all.find? fun k => String.ofList (k.name.toList.map Char.toLower) == word

/-- The name of a kind is read as that kind. -/
theorem ofToken?_name (k : SpanKind) : ofToken? k.name = some k := by
  cases k <;> decide +kernel

end SpanKind

structure Tag where
  key : String
  value : String
  deriving DecidableEq, Repr

structure LogEntry where
  time : Int
  data : List Tag
  deriving DecidableEq, Repr

/-- A reference from a span to a span elsewhere. -/
structure Reference where
  traceId : Option String := none
  parentSegmentId : Option String := none
  parentSpanId : Option String := none
  kind : Option String := none
  deriving DecidableEq, Repr

/-- A timed operation. Times are milliseconds since the epoch. -/
structure Span where
  id : String
  parentId : Option String
  startTime : Int
  endTime : Int
  label : String
  actor : String
  kind : SpanKind := .internal
  component : Option String := none
  peer : Option String := none
  layer : Option String := none
  isError : Bool := false
  tags : List Tag := []
  logs : List LogEntry := []
  refs : List Reference := []
  deriving DecidableEq, Repr

/-- A span without a parent. -/
def Span.isRoot (s : Span) : Bool := s.parentId.isNone

end Waterfall
