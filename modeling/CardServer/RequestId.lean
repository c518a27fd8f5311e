import CardServer.Http.Request
import CardServer.Http.Response
import CardServer.Uuid

/-! # Request ids

Every request runs under one id.  The first `x-request-id` field that the client sent decides: if its
value is text and not empty, it is the id, otherwise a fresh identifier is.  The id replaces whatever
fields of that name the request and the response carry.
-/

namespace CardServer.RequestId

open Http (Request Response Header)

/-- The name of the header field that carries the id. -/
def headerName : String := "x-request-id"

/-- The id that the client supplied, if it can be used. -/
def supplied? (request : Request) : Option String := do
  -- No later field makes up for a first one that cannot be used.
  let value ← (request.valuesOf headerName).head?
  let text ← Header.text? value
  if text.isEmpty then none else some text

/-- The id that a request runs under. -/
def choose (fresh : Uuid) (request : Request) : String :=
  (supplied? request).getD fresh.text

/-- The header value that an id makes, if all its bytes may stand in one. -/
def value? (id : String) : Option (List UInt8) :=
  if (Header.bytesOf id).all Http.isValueByte then some (Header.bytesOf id) else none

/-- The request as the inner parts see it; it is left as it is if the id makes no header value. -/
def mark (id : String) (request : Request) : Request :=
  match value? id with
  | some value => { request with headers := Header.set headerName value request.headers }
  | none => request

/-- The response as the client sees it; it is left as it is if the id makes no header value. -/
def stamp (id : String) (response : Response) : Response :=
  match value? id with
  | some _ => response.setHeader headerName id
  | none => response

@[simp] theorem method_mark (id : String) (request : Request) :
    (mark id request).method = request.method := by
  unfold mark; split <;> rfl

@[simp] theorem uri_mark (id : String) (request : Request) :
    (mark id request).uri = request.uri := by
  unfold mark; split <;> rfl

@[simp] theorem body_mark (id : String) (request : Request) :
    (mark id request).body = request.body := by
  unfold mark; split <;> rfl

@[simp] theorem status_stamp (id : String) (response : Response) :
    (stamp id response).status = response.status := by
  unfold stamp; split <;> rfl

@[simp] theorem body_stamp (id : String) (response : Response) :
    (stamp id response).body = response.body := by
  unfold stamp; split <;> rfl

/-- The fields of all other names stay as they are. -/
theorem valuesOf_stamp_of_ne {name : String} (h : name ≠ headerName) (id : String)
    (response : Response) : (stamp id response).valuesOf name = response.valuesOf name := by
  unfold stamp
  split
  · exact Response.valuesOf_setHeader_of_ne h id response
  · rfl

/-- Answers a request under its id: the handler sees the id on the request, and the response carries
    it whatever the handler set there. -/
def answer (fresh : Uuid) (request : Request) (handler : Request → Response) : Response :=
  let id := choose fresh request
  stamp id (handler (mark id request))

/-- The id that a request carries as text, or a dash if it carries none that is text. -/
def shown (request : Request) : String :=
  ((request.valuesOf headerName).head?.bind Header.text?).getD "-"

end CardServer.RequestId
