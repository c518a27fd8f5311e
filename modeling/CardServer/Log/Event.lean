/-! # Log events and spans

An event is what a component has to say at one moment; a span describes the request during which
it is said.  Both carry a level and a target, by which log filters decide, and fields.
-/

namespace CardServer.Log

/-- How much an event matters, the gravest level first. -/
inductive Level where
  | error
  | warn
  | info
  | debug
  | trace
  deriving DecidableEq, Repr

namespace Level

/-- The name of a level in a log line. -/
def label : Level → String
  | .error => "ERROR"
  | .warn => "WARN"
  | .info => "INFO"
  | .debug => "DEBUG"
  | .trace => "TRACE"

/-- How wordy a level is: a filter at some verbosity lets every level up to it pass. -/
def verbosity : Level → Nat
  | .error => 1
  | .warn => 2
  | .info => 3
  | .debug => 4
  | .trace => 5

end Level

/-- Something said at one moment, with further fields in the order they are written. -/
structure Event where
  level : Level
  target : String
  message : String
  /-- The wording of the error that the event is about, if it is about one. -/
  error : Option String := none
  fields : List (String × String)
  deriving DecidableEq, Repr

namespace Event

/-- What is told of an event by name: its message, the error and the further fields. -/
def told (event : Event) : List (String × String) :=
  ("message", event.message) :: (event.error.map fun text => ("error", text)).toList ++ event.fields

/-- Whether an event has a field of some name. -/
def hasField (event : Event) (name : String) : Bool := event.told.any (·.1 = name)

end Event

/-- The request during which events occur. -/
structure Span where
  requestId : String
  method : String
  uri : String
  version : String
  deriving DecidableEq, Repr

namespace Span

/-- The name of every span. -/
def name : String := "http_request"

/-- The level of every span. -/
def level : Level := .info

/-- The target of every span. -/
def target : String := "service_core::middleware::tracing"

/-- What is told of a span, by name. -/
def fields (span : Span) : List (String × String) :=
  [("method", span.method), ("request_id", span.requestId), ("uri", span.uri),
    ("version", span.version)]

end Span

end CardServer.Log
