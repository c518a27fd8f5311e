import CardServer.Http.Request
import CardServer.Http.Response
import CardServer.Net.Address
import CardServer.Text.Decimal

/-! # Messages

Requests and responses as the bytes of a connection.  A request is a line with method, target and
version, then a line for each header field, an empty line and the body, whose length is told by a
header field or chunk by chunk.  What has arrived of a request may be too little to tell, or enough
to tell that nothing that follows makes it a request.
-/

namespace CardServer.Http.Message

/-- What can be told from the bytes that have arrived. -/
inductive Arrival (α : Type) where
  /-- More bytes are needed. -/
  | partly
  /-- No bytes that follow make it good. -/
  | broken
  | whole (value : α)

/-- What can be told with the value of another arrival. -/
def Arrival.bind {α β : Type} (arrival : Arrival α) (next : α → Arrival β) : Arrival β :=
  match arrival with
  | .partly => .partly
  | .broken => .broken
  | .whole value => next value

/-! ## Lines -/

/-- The bytes at the end of a line. -/
def lineEnd : List UInt8 := [13, 10]

/-- Cuts the first line from some bytes; its end belongs to neither part. -/
def line? : List UInt8 → Option (List UInt8 × List UInt8)
  | [] => none
  | [_] => none
  | b :: c :: rest =>
    if b = 13 ∧ c = 10 then
      some ([], rest)
    else
      (line? (c :: rest)).map fun (line, after) => (b :: line, after)

/-- Cuts the lines up to the first empty one from some bytes. -/
def head? (steps : Nat) (bytes : List UInt8) : Option (List (List UInt8) × List UInt8) :=
  match steps with
  | 0 => none
  | steps + 1 =>
    match line? bytes with
    | none => none
    | some ([], rest) => some ([], rest)
    | some (line, rest) => (head? steps rest).map fun (lines, after) => (line :: lines, after)

/-! ## Requests -/

/-- Whether a byte is a space or a tab. -/
def isBlankByte (b : UInt8) : Bool := b == 0x20 || b == 0x09

/-- The text of some bytes. -/
def textOf? (bytes : List UInt8) : Option String := String.fromUTF8? ⟨bytes.toArray⟩

/-- The name and the value of the header field that a line holds. -/
def field? (line : List UInt8) : Option (String × List UInt8) :=
  let name := line.takeWhile (· != 0x3A)
  match line.drop name.length with
  | [] => none
  | _ :: value =>
    let value := ((value.dropWhile isBlankByte).reverse.dropWhile isBlankByte).reverse
    (textOf? name).map fun name => (name, value)

/-- The method, the target and the version that a line holds. -/
def start? (line : List UInt8) : Option (String × String × Version) :=
  match (textOf? line).map (·.splitOn " ") with
  | some [method, target, version] =>
    (Version.ofLabel? version).map fun version => (method, target, version)
  | _ => none

/-- The request without a body whose first line and header fields are given. -/
def headed (start : List UInt8) (fields : List (List UInt8)) : Arrival Request :=
  match start? start, fields.mapM field? with
  | some (method, target, version), some fields =>
    match Request.build method target version fields .empty with
    | .ok request => .whole request
    | .error _ => .broken
  | _, _ => .broken

/-- The length of a body as its header fields tell it: all of them must tell the same. -/
def lengthOf (request : Request) : Arrival Nat :=
  match request.valuesOf "content-length" with
  | [] => .whole 0
  | value :: rest =>
    match (textOf? value).bind fun text => Text.decimal? text.toList with
    | some length => if rest.all (· == value) then .whole length else .broken
    | none => .broken

/-- The first bytes of a body of some length. -/
def counted (length : Nat) (bytes : List UInt8) : Arrival ByteArray :=
  if bytes.length < length then .partly else .whole ⟨(bytes.take length).toArray⟩

/-- The length of a chunk in hexadecimal digits, up to a semicolon. -/
def chunkLength? (line : List UInt8) : Option Nat :=
  match textOf? (line.takeWhile (· != 0x3B)) with
  | none => none
  | some text =>
    match text.toList.mapM (Net.Address.digit? 16) with
    | some (digit :: digits) => some (Net.Address.ofDigits 16 (digit :: digits))
    | _ => none

/-- A body in chunks, each behind a line with its length; an empty one is the last. -/
def chunked (steps : Nat) (done : ByteArray) (bytes : List UInt8) : Arrival ByteArray :=
  match steps with
  | 0 => .partly
  | steps + 1 =>
    match line? bytes with
    | none => .partly
    | some (line, rest) =>
      match chunkLength? line with
      | none => .broken
      | some 0 => .whole done
      | some length =>
        if rest.length < length + lineEnd.length then
          .partly
        else if (rest.drop length).take lineEnd.length = lineEnd then
          chunked steps (done ++ ⟨(rest.take length).toArray⟩) (rest.drop (length + lineEnd.length))
        else
          .broken

/-- The body of a request among the bytes behind its head. -/
def bodyOf (request : Request) (bytes : List UInt8) : Arrival ByteArray :=
  if (request.valuesOf "transfer-encoding").isEmpty then
    (lengthOf request).bind fun length => counted length bytes
  else
    chunked (bytes.length + 1) .empty bytes

/-- The request that some bytes are. -/
def request (bytes : List UInt8) : Arrival Request :=
  match head? (bytes.length + 1) bytes with
  | none => .partly
  | some ([], _) => .broken
  | some (start :: fields, rest) =>
    (headed start fields).bind fun request =>
      (bodyOf request rest).bind fun body => .whole { request with body }

/-! ## Responses -/

/-- What a status is called. -/
def reason (status : Nat) : String :=
  match status with
  | 200 => "OK"
  | 400 => "Bad Request"
  | 404 => "Not Found"
  | 405 => "Method Not Allowed"
  | 413 => "Payload Too Large"
  | _ => "Unknown"

/-- The answer to what is no request. -/
def refusal : Response := .bare 400 []

/-- The text of a body. -/
def content (timings : RequestLabels → String) : Body → String
  | .text content => content
  | .exposition content => content.timed timings

/-- A response as text; the connection is closed behind it.  The length is that which is declared, so a
    response without its body keeps the length of the body. -/
def response (timings : RequestLabels → String) (response : Response) : String :=
  let fields := response.headers ++
    [("content-length", toString (response.length.count timings)), ("connection", "close")]
  "HTTP/1.1 " ++ toString response.status ++ " " ++ reason response.status ++ "\r\n" ++
    String.join (fields.map fun field => field.1 ++ ": " ++ field.2 ++ "\r\n") ++ "\r\n" ++
    content timings response.body

end CardServer.Http.Message
