import CardServer.Proofs.RequestId.Propagation
import CardServer.Proofs.Service.Dispatch
import CardServer.Proofs.Service.Run
import Mathlib.Data.List.Forall2

/-! # What an answer can depend on

Two requests are *alike* if they agree on the method, on the path, on the ids that they bring and, if
they are generate calls, on the body.  No layer tells them apart but the one that opens the span: query,
scheme, authority, version, all other header fields and all other bodies are without influence.

* `choose_eq_of_alike`        alike requests run under one id
* `reply_eq_of_alike`         alike requests are answered alike
* `span_eq_of_alike`          the spans of alike requests differ in target and version alone
* `run_eq_of_alike`           runs whose steps are alike answer alike and count alike
* `exchange_depends_only_on`  the same of requests that were built
-/

namespace CardServer.Service

open Http (Request Response)

/-- What two requests have to share to be answered alike. -/
structure Alike (request other : Request) : Prop where
  method : request.method = other.method
  path : request.uri.path = other.uri.path
  ids : request.valuesOf RequestId.headerName = other.valuesOf RequestId.headerName
  body : IsGenerate request → request.body = other.body

variable {request other : Request}

/-- Alike requests run under one id. -/
theorem choose_eq_of_alike (h : Alike request other) (fresh : Uuid) :
    RequestId.choose fresh request = RequestId.choose fresh other := by
  simp only [RequestId.choose, RequestId.supplied?, h.ids]

/-- Alike requests are answered alike. -/
theorem reply_eq_of_alike (h : Alike request other) (fresh : Uuid) (recorder : Recorder) :
    (exchange fresh recorder request).reply = (exchange fresh recorder other).reply := by
  have hreply : dispatch recorder request = dispatch recorder other :=
    dispatch_congr h.method h.path h.body recorder
  simp only [reply_exchange, choose_eq_of_alike h, hreply, counted, labels, h.method, h.path]

/-- The spans of alike requests differ in target and version alone. -/
theorem span_eq_of_alike (h : Alike request other) (fresh : Uuid) (recorder : Recorder) :
    (exchange fresh recorder other).span =
      { (exchange fresh recorder request).span with
        uri := other.uri.text, version := other.version.label } := by
  have hspan : ∀ request : Request, (exchange fresh recorder request).span =
      ⟨RequestId.choose fresh request, request.method.name, request.uri.text,
        request.version.label⟩ := by
    intro request
    rw [RequestId.exchange_eq]
    show span (RequestId.seen fresh request) = _
    rw [span, RequestId.shown, RequestId.text?_seen]
    rfl
  rw [hspan, hspan, choose_eq_of_alike h, h.method]

/-- Alike requests leave the same counters behind. -/
theorem recorder_eq_of_alike (h : Alike request other) (fresh : Uuid) (recorder : Recorder) :
    (exchange fresh recorder request).recorder recorder =
      (exchange fresh recorder other).recorder recorder := by
  simp only [Exchange.recorder, reply_eq_of_alike h]

/-! ## Runs -/

/-- Steps that are alike: requests that are, with one fresh identifier, or twice the same step. -/
inductive Step.Alike : Step → Step → Prop
  | request {request other : Request} (fresh : Uuid) (h : Service.Alike request other) :
    Alike (.request fresh request) (.request fresh other)
  | refl (step : Step) : Alike step step

/-- Alike steps have alike outcomes and leave the same recorder behind. -/
theorem step_eq_of_alike {step twin : Step} (h : step.Alike twin) (recorder : Recorder) :
    (step.outcome recorder).map (·.reply) = (twin.outcome recorder).map (·.reply) ∧
      step.after recorder = twin.after recorder := by
  cases h with
  | request fresh h =>
    exact ⟨congrArg some (reply_eq_of_alike h fresh recorder), recorder_eq_of_alike h fresh recorder⟩
  | refl => exact ⟨rfl, rfl⟩

/-- Runs whose steps are alike answer alike and count alike at every point. -/
theorem run_eq_of_alike {steps twins : List Step} (h : List.Forall₂ Step.Alike steps twins)
    (recorder : Recorder) :
    (run recorder steps).map (fun entry => (entry.1.map (·.reply), entry.2)) =
      (run recorder twins).map (fun entry => (entry.1.map (·.reply), entry.2)) := by
  induction h generalizing recorder with
  | nil => rfl
  | cons hstep _ ih =>
    obtain ⟨hreply, hafter⟩ := step_eq_of_alike hstep recorder
    simp only [run, List.map_cons, hreply, hafter, ih]

/-! ## Requests that were built -/

/-- What the answer to a request can depend on, in every state: the method, the path, the ids that
    were sent and, if it is a generate call, the body.  Response, events and counters are the same
    for all requests that share these; only the target and the version in the span may differ.  So one
    such request may stand for another anywhere in a run: every step is answered as before. -/
theorem exchange_depends_only_on {method uri otherUri : String} {version otherVersion : Http.Version}
    {sent otherSent : List (String × List UInt8)} {body otherBody : ByteArray}
    {request other : Request}
    (hbuild : Request.build method uri version sent body = .ok request)
    (hother : Request.build method otherUri otherVersion otherSent otherBody = .ok other)
    (hpath : request.uri.path = other.uri.path)
    (hids : (sent.filter fun field => field.1.map Char.toLower = "x-request-id").map (·.2) =
      (otherSent.filter fun field => field.1.map Char.toLower = "x-request-id").map (·.2))
    (hbody : method = "POST" →
      request.uri.path = "/v1/generate" ∨ request.uri.path = "/api/generate" → body = otherBody)
    (fresh : Uuid) (recorder : Recorder) :
    let result := exchange fresh recorder request
    let otherResult := exchange fresh recorder other
    result.reply.response = otherResult.reply.response ∧
      result.reply.events = otherResult.reply.events ∧
      result.recorder recorder = otherResult.recorder recorder ∧
      otherResult.span =
        { result.span with uri := other.uri.text, version := other.version.label } ∧
      ∀ before after : List Step,
        (run recorder (before ++ .request fresh request :: after)).map
            (fun entry => (entry.1.map (·.reply), entry.2)) =
          (run recorder (before ++ .request fresh other :: after)).map
            (fun entry => (entry.1.map (·.reply), entry.2)) := by
  obtain ⟨hname, -, -, hsame⟩ := Request.parts_of_build hbuild
  obtain ⟨hotherName, -, -, hotherSame⟩ := Request.parts_of_build hother
  have halike : Alike request other := by
    refine ⟨?_, hpath, ?_, ?_⟩
    · exact Http.Method.name_injective (hname.trans hotherName.symm)
    · rw [Request.valuesOf_of_build hbuild, Request.valuesOf_of_build hother]
      exact hids
    · rintro ⟨hpost, hcall⟩
      rw [hsame, hotherSame]
      refine hbody ?_ hcall
      rw [← hname, hpost]
      rfl
  intro result otherResult
  have hreply : result.reply = otherResult.reply := reply_eq_of_alike halike fresh recorder
  refine ⟨congrArg (·.response) hreply, congrArg (·.events) hreply,
    recorder_eq_of_alike halike fresh recorder, span_eq_of_alike halike fresh recorder,
    fun before after => ?_⟩
  have hself (steps : List Step) : List.Forall₂ Step.Alike steps steps :=
    List.forall₂_same.2 fun step _ => .refl step
  exact run_eq_of_alike (List.rel_append (hself before) (.cons (.request fresh halike) (hself after)))
    recorder

/-- A generate call in the absolute form and in the origin form, with a query, a content type and a
    content length here and without them there. -/
theorem exchange_of_call_in_both_forms :
    let sent : List (String × List UInt8) :=
      [("Content-Type", "text/plain".toUTF8.toList), ("X-Request-Id", [0x61]),
        ("content-length", "7".toUTF8.toList)]
    let otherSent : List (String × List UInt8) := [("x-request-id", [0x61])]
    let request : Request :=
      ⟨.post, ⟨some "http", some "me@host:80", "/api/generate", some "a=b"⟩, .http2,
        [⟨"content-type", "text/plain".toUTF8.toList⟩, ⟨"x-request-id", [0x61]⟩,
          ⟨"content-length", "7".toUTF8.toList⟩], .empty⟩
    let other : Request :=
      ⟨.post, ⟨none, none, "/api/generate", none⟩, .http10, [⟨"x-request-id", [0x61]⟩], .empty⟩
    let recorder := Recorder.absent.install
    Request.build "POST" "http://me@host:80/api/generate?a=b#c" .http2 sent .empty = .ok request ∧
      Request.build "POST" "/api/generate" .http10 otherSent .empty = .ok other ∧
      (exchange (.ofRandom 0) recorder request).reply.response =
        (exchange (.ofRandom 0) recorder other).reply.response := by
  intro sent otherSent request other recorder
  have hbuild : Request.build "POST" "http://me@host:80/api/generate?a=b#c" .http2 sent .empty =
      .ok request := by
    with_unfolding_all rfl
  have hother : Request.build "POST" "/api/generate" .http10 otherSent .empty = .ok other := by
    with_unfolding_all rfl
  have hids : (sent.filter fun field => field.1.map Char.toLower = "x-request-id").map (·.2) =
      (otherSent.filter fun field => field.1.map Char.toLower = "x-request-id").map (·.2) := by
    decide +kernel
  obtain ⟨hresponse, -⟩ := exchange_depends_only_on hbuild hother rfl hids (fun _ _ => rfl)
    (.ofRandom 0) recorder
  exact ⟨hbuild, hother, hresponse⟩

end CardServer.Service
