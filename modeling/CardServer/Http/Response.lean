import CardServer.Http.Header
import CardServer.Meter

/-! # Responses

A response has a status, header fields and a body.  The body is text or an exposition of counters.
How long an exposition is hangs on measured durations, so the length stands beside the other header
fields: a number, or the exposition that it is the length of.

* `valuesOf_setHeader`         setting a header field leaves exactly one field of its name
* `valuesOf_setHeader_of_ne`   setting a header field leaves the fields of all other names as they are
-/

namespace CardServer.Http

/-- The body of a response. -/
inductive Body where
  | text (content : String)
  | exposition (content : Exposition)
  deriving DecidableEq, Repr

/-- The empty body. -/
def Body.empty : Body := .text ""

/-- How long a body is. -/
inductive Length where
  | bytes (count : Nat)
  /-- As long as an exposition, which tells of measured durations. -/
  | exposition (content : Exposition)
  deriving DecidableEq, Repr

namespace Length

/-- The number of bytes; `timings` is what is told of durations. -/
def count (timings : RequestLabels → String) : Length → Nat
  | .bytes count => count
  | .exposition content => (content.timed timings).utf8ByteSize

/-- The number of bytes, if it does not hang on durations. -/
def known? : Length → Option Nat
  | .bytes count => some count
  | .exposition _ => none

end Length

/-- How long a body is. -/
def Body.length : Body → Length
  | .text content => .bytes content.utf8ByteSize
  | .exposition content => .exposition content

/-- A response. -/
structure Response where
  status : Nat
  /-- The header fields other than the length, names in lower case. -/
  headers : List (String × String)
  /-- The declared length of the body, or of the body that a `GET` would have brought. -/
  length : Length
  body : Body
  deriving DecidableEq, Repr

namespace Response

/-- The content type of plain text. -/
def plainType : String := "text/plain; charset=utf-8"

/-- The content type of Json. -/
def jsonType : String := "application/json"

/-- A response with a body of some content type. -/
def withBody (status : Nat) (contentType : String) (body : Body) : Response :=
  ⟨status, [("content-type", contentType)], body.length, body⟩

/-- A response without a body. -/
def bare (status : Nat) (headers : List (String × String)) : Response :=
  ⟨status, headers, .bytes 0, .empty⟩

/-- The response without its body, all else kept. -/
def withoutBody (response : Response) : Response := { response with body := .empty }

/-- The values of all header fields of a name. -/
def valuesOf (name : String) (response : Response) : List String :=
  (response.headers.filter (·.1 = name)).map (·.2)

/-- Puts a single header field of a name in place of all fields of that name. -/
def setHeader (name value : String) (response : Response) : Response :=
  { response with headers := response.headers.filter (·.1 ≠ name) ++ [(name, value)] }

@[simp] theorem valuesOf_setHeader (name value : String) (response : Response) :
    (response.setHeader name value).valuesOf name = [value] := by
  have h : (response.headers.filter (·.1 ≠ name)).filter (·.1 = name) = [] := by
    simp [List.filter_filter]
  simp [valuesOf, setHeader, List.filter_append]

/-- Setting a header field leaves the fields of all other names as they are. -/
theorem valuesOf_setHeader_of_ne {name other : String} (h : other ≠ name) (value : String)
    (response : Response) :
    (response.setHeader name value).valuesOf other = response.valuesOf other := by
  have hne : ¬ name = other := fun heq => h heq.symm
  simp only [valuesOf, setHeader, List.filter_append, filter_filter_of_ne Prod.fst h]
  simp [hne]

/-- All header fields in alphabetical order; the value is missing for a length that hangs on
    durations. -/
def allHeaders (response : Response) : List (String × Option String) :=
  (("content-length", response.length.known?.map toString) ::
    response.headers.map fun field => (field.1, some field.2)).mergeSort fun a b => a.1 ≤ b.1

end Response

end CardServer.Http
