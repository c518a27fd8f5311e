import CardServer.Http.Header
import CardServer.Http.Uri

/-! # Requests

A request that can be sent, and how one is built from its parts.  Building looks at the method
first, then at the target, then at the header fields in order, and reports the first part that is at
fault.

* `parts_of_build`      a request that was built has the parts that it was built from
* `valuesOf_of_build`   a request that was built has the fields that were sent
-/

namespace CardServer.Http

/-- A version of the protocol. -/
inductive Version where
  | http09
  | http10
  | http11
  | http2
  | http3
  deriving DecidableEq, Repr

/-- The name of a version. -/
def Version.label : Version → String
  | .http09 => "HTTP/0.9"
  | .http10 => "HTTP/1.0"
  | .http11 => "HTTP/1.1"
  | .http2 => "HTTP/2.0"
  | .http3 => "HTTP/3.0"

/-- All versions. -/
def Version.all : List Version := [.http09, .http10, .http11, .http2, .http3]

/-- The version of a name. -/
def Version.ofLabel? (label : String) : Option Version := all.find? (·.label = label)

/-- A request that can be sent. -/
structure Request where
  method : Method
  uri : Uri
  version : Version
  headers : List Header
  body : ByteArray

/-- Why no request can be built. -/
inductive Request.Fault where
  | method
  | uri (fault : Uri.Fault)
  | header (fault : Header.Fault)
  deriving DecidableEq, Repr

/-- The wording of a fault. -/
def Request.Fault.message : Request.Fault → String
  | .method => "invalid HTTP method"
  | .uri fault => fault.message
  | .header .name => "invalid HTTP header name"
  | .header .value => "failed to parse header value"

namespace Request

/-- The header fields of names and values as they were sent. -/
def readHeaders : List (String × List UInt8) → Except Fault (List Header)
  | [] => .ok []
  | (name, value) :: rest =>
    match Header.ofParts name value with
    | .error fault => .error (.header fault)
    | .ok header =>
      match readHeaders rest with
      | .error fault => .error fault
      | .ok headers => .ok (header :: headers)

/-- Builds a request from its parts. -/
def build (method uri : String) (version : Version) (headers : List (String × List UInt8))
    (body : ByteArray) : Except Fault Request :=
  match Method.ofText? method with
  | none => .error .method
  | some method =>
    match Uri.ofText uri with
    | .error fault => .error (.uri fault)
    | .ok uri =>
      match readHeaders headers with
      | .error fault => .error fault
      | .ok headers => .ok ⟨method, uri, version, headers, body⟩

/-- The values of all header fields of a name, in order. -/
def valuesOf (name : String) (request : Request) : List (List UInt8) :=
  Header.valuesOf name request.headers

theorem valuesOf_readHeaders {sent : List (String × List UInt8)} {headers : List Header}
    (h : readHeaders sent = .ok headers) (name : String) :
    Header.valuesOf name headers =
      (sent.filter fun field => field.1.map Char.toLower = name).map (·.2) := by
  induction sent generalizing headers with
  | nil =>
    obtain rfl := Except.ok.inj h
    rfl
  | cons field rest ih =>
    simp only [readHeaders] at h
    split at h
    · nomatch h
    · next header hheader =>
      split at h
      · nomatch h
      · next others hothers =>
        obtain rfl := Except.ok.inj h
        obtain rfl := Header.eq_of_ofParts hheader
        have hrest := ih hothers
        simp only [Header.valuesOf, List.filter_cons] at hrest ⊢
        split <;> simp [hrest]

/-- A request that was built has the parts that it was built from. -/
theorem parts_of_build {method uri : String} {version : Version}
    {sent : List (String × List UInt8)} {body : ByteArray} {request : Request}
    (h : build method uri version sent body = .ok request) :
    request.method.name = method ∧ Uri.ofText uri = .ok request.uri ∧
      request.version = version ∧ request.body = body := by
  simp only [build] at h
  split at h
  · nomatch h
  · next hmethod =>
    split at h
    · nomatch h
    · next huri =>
      split at h
      · nomatch h
      · obtain rfl := Except.ok.inj h
        exact ⟨Method.name_of_ofText? hmethod, huri, rfl, rfl⟩

/-- A request that was built has the fields that were sent, whatever the case of their names. -/
theorem valuesOf_of_build {method uri : String} {version : Version}
    {sent : List (String × List UInt8)} {body : ByteArray} {request : Request}
    (h : build method uri version sent body = .ok request) (name : String) :
    request.valuesOf name = (sent.filter fun field => field.1.map Char.toLower = name).map (·.2) := by
  simp only [build] at h
  split at h
  · nomatch h
  · split at h
    · nomatch h
    · split at h
      · nomatch h
      · next hheaders =>
        obtain rfl := Except.ok.inj h
        exact valuesOf_readHeaders hheaders name

end Request

end CardServer.Http
