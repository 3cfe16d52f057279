import Waterfall.Json.Fault

/-!
# Errors of a trace

`Defect` is what makes a list of spans unusable for a layout; `TraceError` adds what can go wrong
before there are spans at all. Each has one message.
-/

namespace Waterfall

/-- A structural defect of a list of spans. Rows count from zero. -/
inductive Defect where
  | empty
  | duplicateId (id : String) (first second : Nat)
  | danglingParent (id parent : String)
  | parentAfterChild (id parent : String) (childRow parentRow : Nat)
  | missingRoot (id : String)
  | multipleRoots (count : Nat)
  | negativeDuration (id : String) (start stop : Int)
  | timeOutOfRange (id : String) (start stop : Int)
  deriving DecidableEq, Repr

namespace Defect

def message : Defect → String
  | .empty => "trace has no spans"
  | .duplicateId id first second =>
    "span id " ++ ticked id ++ " appears more than once (rows " ++ decimal first ++ " and " ++
      decimal second ++ ")"
  | .danglingParent id parent => "span " ++ ticked id ++ " references unknown parent " ++ ticked parent
  | .parentAfterChild id parent childRow parentRow =>
    "span " ++ ticked id ++ " (row " ++ decimal childRow ++ ") precedes its parent " ++ ticked parent ++
      " (row " ++ decimal parentRow ++ ")"
  | .missingRoot id => "first span " ++ ticked id ++ " is not a root"
  | .multipleRoots count => "trace has " ++ decimal count ++ " root spans, expected one"
  | .negativeDuration id start stop =>
    "span " ++ ticked id ++ " ends before it starts (" ++ decimal start ++ " > " ++ decimal stop ++ ")"
  | .timeOutOfRange id start stop =>
    "span " ++ ticked id ++ " lies too far from the trace start to measure (" ++ decimal start ++ ".." ++
      decimal stop ++ ")"

end Defect

/-- The fields that every span of a document has to have. -/
inductive RequiredField where
  | spanId
  | startTime
  | endTime
  deriving DecidableEq, Repr

def RequiredField.name : RequiredField → String
  | .spanId => "spanId"
  | .startTime => "startTime"
  | .endTime => "endTime"

inductive TraceError where
  | defect (d : Defect)
  /-- The text is not JSON, or not of the shape read straight from text. -/
  | badText (fault : Json.Fault) (place : Position)
  /-- The document is JSON, but its spans are not of the right shape. -/
  | badShape (m : Mismatch)
  | missingField (index : Nat) (field : RequiredField)
  | noSpanList

namespace TraceError

def message : TraceError → String
  | .defect d => "invalid trace structure: " ++ d.message
  | .badText fault place =>
    "malformed trace JSON: " ++ fault.message ++ " at line " ++ decimal place.line ++ " column " ++
      decimal place.column
  | .badShape m => "malformed trace JSON: " ++ m.message .json
  | .missingField index field =>
    "span #" ++ decimal index ++ " is missing required field " ++ ticked field.name
  | .noSpanList => "no span list found in trace document"

/-- The error for a text that could not be read. -/
def ofFailure (text : List Char) (f : Json.Failure) : TraceError :=
  .badText f.fault (f.position text)

end TraceError

end Waterfall
