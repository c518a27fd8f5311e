import CardServer.Json.Writer
import CardServer.Log.Event

/-! # Log lines

What is logged becomes one line of Json each: the event with its fields side by side, and the span it
occurred in as an object of its own.
-/

namespace CardServer.Log

/-- Something logged, with the span it is logged in. -/
structure Line where
  event : Event
  span : Option Span
  deriving DecidableEq, Repr

/-- What is told of an event, by name. -/
def Event.members (event : Event) : List (String × String) :=
  ("level", event.level.label) :: event.told ++ [("target", event.target)]

/-- What is told of a span, by name, and its own name. -/
def Span.members (span : Span) : List (String × String) := span.fields ++ [("name", Span.name)]

namespace Line

/-- The object of some texts by name. -/
def object (members : List (String × String)) : List (String × Json) :=
  members.map fun member => (member.1, .str member.2)

/-- A line as a value. -/
def toJson (line : Line) : Json :=
  .obj (object line.event.members ++
    (line.span.map fun span => ("span", Json.obj (object span.members))).toList)

/-- A line as it is written. -/
def text (line : Line) : String := line.toJson.render

end Line

end CardServer.Log
