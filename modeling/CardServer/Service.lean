import CardServer.Card
import CardServer.GenerateCall
import CardServer.RequestId
import CardServer.Route

/-! # Answering requests

A request passes through three layers on its way to an endpoint.  The outermost gives it its id, the
next opens its span, the innermost counts it once it has been answered.  `Service.exchange` gives all
that comes of one request: the response, the log events, the span and the series to be counted.  The
only state is the recorder of the counters, and only the metrics endpoint looks at it.
-/

namespace CardServer

open Http (Request Response Body Method)

/-- What a request is answered with, and what is logged and counted on the way. -/
structure Reply where
  response : Response
  events : List Log.Event
  counted : List Series
  /-- Whether the samples that wait are folded into their summaries first. -/
  folds : Bool
  deriving DecidableEq, Repr

/-- A reply that is neither logged nor counted. -/
def Reply.silent (response : Response) : Reply := ⟨response, [], [], false⟩

namespace Service

/-- The greatest length of the body of a generate call. -/
def bodyLimit : Nat := 2097152

/-- The name of the service in its health report. -/
def name : String := "ollama-mock"

/-- The version of the service in its health report. -/
def version : String := "0.1.0"

/-- The answer to a generate call that is too long. -/
def tooLong : Response :=
  .withBody 413 Response.plainType
    (.text "Failed to buffer the request body: length limit exceeded")

/-- The log event of a card. -/
def cardEvent (call : GenerateCall) (found : WordMatch) : Log.Event where
  level := .info
  target := "ollama_mock::handlers::generate"
  message := "Generated word card"
  fields :=
    [("model", call.model.getD "-"), ("word", found.word), ("source", found.source.label)]

/-- Answers a generate call with the card for its word. -/
def generate (body : ByteArray) : Reply :=
  -- The length decides before anything is read from the body.
  if bodyLimit < body.size then
    .silent tooLong
  else
    let (call, defect) := GenerateCall.ofBody body
    let found := WordMatch.ofPrompt call.prompt
    { response := .withBody 200 Response.jsonType (.text (Card.ofWord found.word).wire)
      events := (defect.map (·.event)).toList ++ [cardEvent call found]
      counted := [.generations found.source]
      folds := false }

/-- The list of models. -/
def models : Response :=
  .withBody 200 Response.jsonType (.text (Json.arr [ModelInfo.only.toJson]).render)

/-- The health report. -/
def health : Response :=
  let report : Json := .obj [("service", .str name), ("status", .str "ok"), ("version", .str version)]
  .withBody 200 Response.jsonType (.text report.render)

/-- The answer to a ping. -/
def ping : Response := .withBody 200 Response.plainType (.text "pong")

/-- The counters as they stand, the samples that wait folded into them. -/
def metrics (recorder : Recorder) : Response :=
  .withBody 200 Response.plainType
    (match recorder.meter with
      | some meter => .exposition ⟨meter.fold⟩
      | none => .text Recorder.absentNotice)

/-- Answers a request that an endpoint serves. -/
def serve (recorder : Recorder) (endpoint : Endpoint) (body : ByteArray) : Reply :=
  match endpoint with
  | .models => .silent models
  | .generate => generate body
  | .ping => .silent ping
  | .health => .silent health
  | .metrics => { Reply.silent (metrics recorder) with folds := true }

/-- The answer to a method that an endpoint does not serve. -/
def notAllowed (endpoint : Endpoint) : Response :=
  .bare 405 [("allow", ",".intercalate (endpoint.methods.map (·.name)))]

/-- The answer to a path without a route. -/
def notFound : Response := .bare 404 []

/-- Answers a request at the route that its path leads to. -/
def dispatch (recorder : Recorder) (request : Request) : Reply :=
  match Route.ofPath? request.uri.path with
  | none => .silent notFound
  | some route =>
    let endpoint := route.endpoint
    if request.method ∈ endpoint.methods then
      let reply := serve recorder endpoint request.body
      -- Only the body is left out; its declared length stays.
      if request.method = Method.head then
        { reply with response := reply.response.withoutBody }
      else
        reply
    else
      .silent (notAllowed endpoint)

/-- The labels under which a request with some status is counted. -/
def labels (request : Request) (status : Nat) : RequestLabels :=
  ⟨request.method.name, Route.label (Route.ofPath? request.uri.path), status⟩

/-- Counts a request once it has been answered. -/
def counted (request : Request) (reply : Reply) : Reply :=
  let labels := labels request reply.response.status
  { reply with counted := reply.counted ++ [.requests labels, .durations labels] }

/-- The span of a request. -/
def span (request : Request) : Log.Span :=
  ⟨RequestId.shown request, request.method.name, request.uri.text, request.version.label⟩

/-- All that comes of one request. -/
structure Exchange where
  reply : Reply
  span : Log.Span

/-- What the parts within the layer of ids make of a request. -/
def inner (recorder : Recorder) (request : Request) : Exchange :=
  ⟨counted request (dispatch recorder request), span request⟩

/-- Answers a request; `fresh` becomes its id if it brought none. -/
def exchange (fresh : Uuid) (recorder : Recorder) (request : Request) : Exchange :=
  let id := RequestId.choose fresh request
  -- Labels and span are those of the marked request.
  let inside := inner recorder (RequestId.mark id request)
  { inside with
    reply := { inside.reply with response := RequestId.stamp id inside.reply.response } }

/-- The recorder after a request. -/
def Exchange.recorder (exchange : Exchange) (before : Recorder) : Recorder :=
  -- A scrape shows the counters without itself, so folding comes before counting.
  (if exchange.reply.folds then before.fold else before).record exchange.reply.counted

/-- One step in the life of the server. -/
inductive Step where
  /-- A request arrives; the identifier is the one it gets if it brought none. -/
  | request (fresh : Uuid) (request : Request)
  /-- Something arrives that is no request. -/
  | malformed (fault : Http.Request.Fault)
  /-- The samples of durations are folded into their summaries. -/
  | upkeep
  /-- The meter is installed. -/
  | install

/-- What comes of a step: an exchange if the step was a request. -/
def Step.outcome (recorder : Recorder) : Step → Option Exchange
  | .request fresh sent => some (exchange fresh recorder sent)
  | _ => none

/-- The recorder after a step. -/
def Step.after (recorder : Recorder) : Step → Recorder
  | .request fresh sent => (exchange fresh recorder sent).recorder recorder
  | .malformed _ => recorder
  | .upkeep => recorder.fold
  | .install => recorder.install

/-- What comes of each of some steps, with the recorder after it. -/
def run (recorder : Recorder) : List Step → List (Option Exchange × Recorder)
  | [] => []
  | step :: rest =>
    let after := step.after recorder
    (step.outcome recorder, after) :: run after rest

/-- How often the samples of durations are folded into their summaries, in milliseconds. -/
def upkeepInterval : Nat := 5000

end Service

end CardServer
