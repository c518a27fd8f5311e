import CardServer.Json.Bytes
import CardServer.Log.Event

/-! # Reading a generate call

A generate call is read leniently from the bytes of its body.  Of an object only the members `model`
and `prompt` count, and only if they are strings; any other body counts as an object without
members.  A body that is not Json, or is Json but no object, is noted in the log; an empty body
passes in silence.
-/

namespace CardServer

/-- What a generate call says that matters. -/
structure GenerateCall where
  model : Option String
  prompt : String
  deriving DecidableEq, Repr

namespace GenerateCall

/-- The call of an empty body. -/
def default : GenerateCall := ⟨none, ""⟩

/-- What can be wrong with a body. -/
inductive Defect where
  /-- It is no Json, and why. -/
  | notJson (error : String)
  | notObject
  deriving DecidableEq, Repr

/-- The log event about a defect. -/
def Defect.event (defect : Defect) : Log.Event where
  level := .debug
  target := "ollama_mock::models::generation"
  message :=
    match defect with
    | .notJson _ => "Generate body is not JSON, treating as empty"
    | .notObject => "Generate body is not a JSON object, treating as empty"
  error :=
    match defect with
    | .notJson error => some error
    | .notObject => none
  fields := []

/-- The call that an object with some members makes. -/
def ofMembers (members : List (String × Json)) : GenerateCall where
  model := (Json.lastMember? "model" members).bind Json.text?
  prompt := ((Json.lastMember? "prompt" members).bind Json.text?).getD ""

/-- The call that a body makes, and what is wrong with the body. -/
def ofBody (body : ByteArray) : GenerateCall × Option Defect :=
  match Json.ofBytes body with
  -- An empty body is no Json either, but nothing is wrong with it.
  | .error error => (default, if body.isEmpty then none else some (.notJson error))
  | .ok (.obj members) => (ofMembers members, none)
  | .ok _ => (default, some .notObject)

end GenerateCall

end CardServer
