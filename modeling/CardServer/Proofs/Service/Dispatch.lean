import CardServer.Service

/-! # The four ways to answer a request

What a route answers depends on the path, the method and, for a generate call, the body: there is no
route, the route does not serve the method, the route is for generate calls, or it leads to a page.
`dispatch_cases` says which of the four it is and what the reply is then, so that nothing else has to
open `Service.dispatch`.

* `dispatch_cases`           the reply to every request
* `dispatch_traces`          what a request logs and counts at its endpoint
* `counted_dispatch_cases`   a generate call is counted exactly if it is answered with a card
* `dispatch_congr`           what of a request the reply depends on
* `reply_exchange`           what the layers around all routes make of the reply
-/

namespace CardServer.Service

open Http (Request Response Body Method)

/-- The routes for generate calls. -/
theorem endpoint_eq_generate_iff {route : Route} :
    route.endpoint = .generate ↔ route.path = "/v1/generate" ∨ route.path = "/api/generate" := by
  cases route <;> decide

/-- A request for a generate call: a `POST` to a route for such calls. -/
def IsGenerate (request : Request) : Prop :=
  request.method = .post ∧
    (request.uri.path = "/v1/generate" ∨ request.uri.path = "/api/generate")

/-- A generate call gets through to its handler. -/
theorem dispatch_of_isGenerate {recorder : Recorder} {request : Request} (h : IsGenerate request) :
    dispatch recorder request = generate request.body := by
  obtain ⟨hmethod, hpath⟩ := h
  have hroute : ∃ route, Route.ofPath? request.uri.path = some route ∧
      route.endpoint = .generate := by
    rcases hpath with hpath | hpath
    · exact ⟨.generateV1, Route.ofPath?_eq_some_iff.2 hpath.symm, rfl⟩
    · exact ⟨.generate, Route.ofPath?_eq_some_iff.2 hpath.symm, rfl⟩
  obtain ⟨route, hofPath, hendpoint⟩ := hroute
  have hserved : Method.post ∈ Endpoint.generate.methods := by decide
  have hhead : Method.post ≠ Method.head := by decide
  simp only [dispatch, hofPath, hendpoint, hmethod, if_pos hserved, if_neg hhead, serve]

/-- A call that is short enough is answered with the card for its word. -/
theorem generate_of_le {body : ByteArray} (h : body.size ≤ bodyLimit) :
    generate body =
      { response := .withBody 200 Response.jsonType
          (.text (Card.ofWord (WordMatch.ofPrompt (GenerateCall.ofBody body).1.prompt).word).wire)
        events := ((GenerateCall.ofBody body).2.map (·.event)).toList ++
          [cardEvent (GenerateCall.ofBody body).1
            (WordMatch.ofPrompt (GenerateCall.ofBody body).1.prompt)]
        counted := [.generations (WordMatch.ofPrompt (GenerateCall.ofBody body).1.prompt).source]
        folds := false } := by
  unfold generate
  rw [if_neg (Nat.not_lt.2 h)]

/-- A call that is too long never reaches its handler. -/
theorem generate_of_lt {body : ByteArray} (h : bodyLimit < body.size) :
    generate body = .silent tooLong := by
  unfold generate
  rw [if_pos h]

/-- What a page is answered with; `HEAD` gets no body. -/
def page (recorder : Recorder) (endpoint : Endpoint) (request : Request) : Reply :=
  let reply := serve recorder endpoint request.body
  if request.method = .head then
    { reply with response := reply.response.withoutBody }
  else
    reply

/-- The reply to every request. -/
theorem dispatch_cases (recorder : Recorder) (request : Request) :
    (Route.ofPath? request.uri.path = none ∧ dispatch recorder request = .silent notFound) ∨
      (∃ route, Route.ofPath? request.uri.path = some route ∧
        request.method ∉ route.endpoint.methods ∧
        dispatch recorder request = .silent (notAllowed route.endpoint)) ∨
      (IsGenerate request ∧ dispatch recorder request = generate request.body) ∨
      ∃ route, Route.ofPath? request.uri.path = some route ∧ route.endpoint ≠ .generate ∧
        (request.method = .get ∨ request.method = .head) ∧
        dispatch recorder request = page recorder route.endpoint request := by
  cases hroute : Route.ofPath? request.uri.path with
  | none => exact .inl ⟨rfl, by simp only [dispatch, hroute]⟩
  | some route =>
    by_cases hserved : request.method ∈ route.endpoint.methods
    · by_cases hgenerate : route.endpoint = .generate
      · rw [hgenerate] at hserved
        have hpath := endpoint_eq_generate_iff.1 hgenerate
        rw [Route.ofPath?_eq_some_iff.1 hroute] at hpath
        have hcall : IsGenerate request := ⟨List.mem_singleton.1 hserved, hpath⟩
        exact .inr (.inr (.inl ⟨hcall, dispatch_of_isGenerate hcall⟩))
      · -- All other endpoints are pages.
        have hmethod : request.method = .get ∨ request.method = .head := by
          cases hendpoint : route.endpoint <;>
            simp_all [Endpoint.methods]
        exact .inr (.inr (.inr ⟨route, rfl, hgenerate, hmethod,
          by simp only [dispatch, hroute, if_pos hserved, page]⟩))
    · exact .inr (.inl ⟨route, rfl, hserved, by simp only [dispatch, hroute, if_neg hserved]⟩)

/-- A page is neither logged nor counted by itself. -/
theorem page_silent {endpoint : Endpoint} (h : endpoint ≠ .generate) (recorder : Recorder)
    (request : Request) :
    (page recorder endpoint request).events = [] ∧
      (page recorder endpoint request).counted = [] := by
  unfold page
  cases endpoint with
  | generate => exact absurd rfl h
  | models | ping | health | metrics => split <;> exact ⟨rfl, rfl⟩

/-- A generate call that is short enough to be answered with a card. -/
def IsAnswered (request : Request) : Prop := IsGenerate request ∧ request.body.size ≤ bodyLimit

/-- The word that a body asks for, with the rule that finds it. -/
def wordOf (body : ByteArray) : WordMatch :=
  WordMatch.ofPrompt (GenerateCall.ofBody body).1.prompt

/-- At its endpoint a generate call that is answered logs its card and is counted by its rule; any
    other request leaves no trace there. -/
theorem dispatch_traces (recorder : Recorder) (request : Request) :
    let reply := dispatch recorder request
    (IsAnswered request ∧ reply.response.status = 200 ∧
        reply.events = ((GenerateCall.ofBody request.body).2.map (·.event)).toList ++
          [cardEvent (GenerateCall.ofBody request.body).1 (wordOf request.body)] ∧
        reply.counted = [.generations (wordOf request.body).source]) ∨
      ¬ IsAnswered request ∧ ¬ (IsGenerate request ∧ reply.response.status = 200) ∧
        reply.events = [] ∧ reply.counted = [] := by
  intro reply
  by_cases hcall : IsGenerate request
  · have hreply : reply = generate request.body := dispatch_of_isGenerate hcall
    rw [hreply]
    -- A call that is too long is refused before its handler could log or count it.
    rcases Nat.lt_or_ge bodyLimit request.body.size with hlong | hshort
    · rw [generate_of_lt hlong]
      exact .inr ⟨fun h => absurd h.2 (Nat.not_le.2 hlong),
        fun h => absurd (show 413 = 200 from h.2) (by decide), rfl, rfl⟩
    · rw [generate_of_le hshort]
      exact .inl ⟨⟨hcall, hshort⟩, rfl, rfl, rfl⟩
  · have hsilent : reply.events = [] ∧ reply.counted = [] := by
      rcases dispatch_cases recorder request with ⟨-, hreply⟩ | ⟨route, -, -, hreply⟩ |
        ⟨hgenerate, -⟩ | ⟨route, -, hendpoint, -, hreply⟩
      · rw [show reply = _ from hreply]
        exact ⟨rfl, rfl⟩
      · rw [show reply = _ from hreply]
        exact ⟨rfl, rfl⟩
      · exact absurd hgenerate hcall
      · rw [show reply = _ from hreply]
        exact page_silent hendpoint recorder request
    exact .inr ⟨fun h => hcall h.1, fun h => hcall h.1, hsilent⟩

/-- A generate call is counted exactly if it is answered with a card. -/
theorem counted_dispatch_cases (recorder : Recorder) (request : Request) :
    (IsGenerate request ∧ (dispatch recorder request).response.status = 200 ∧
        ∃ source, (dispatch recorder request).counted = [.generations source]) ∨
      ¬ (IsGenerate request ∧ (dispatch recorder request).response.status = 200) ∧
        (dispatch recorder request).counted = [] := by
  rcases dispatch_traces recorder request with ⟨hcall, hstatus, -, hcounted⟩ |
    ⟨-, hnone, -, hcounted⟩
  · exact .inl ⟨hcall.1, hstatus, _, hcounted⟩
  · exact .inr ⟨hnone, hcounted⟩

/-! ## What the reply depends on -/

/-- Only generate calls look at the body. -/
theorem serve_congr {endpoint : Endpoint} {body other : ByteArray}
    (h : endpoint = .generate → body = other) (recorder : Recorder) :
    serve recorder endpoint body = serve recorder endpoint other := by
  cases endpoint with
  | generate => rw [h rfl]
  | models | ping | health | metrics => rfl

/-- The reply depends on method and path, and on the body of a generate call. -/
theorem dispatch_congr {request other : Request} (hmethod : request.method = other.method)
    (hpath : request.uri.path = other.uri.path)
    (hbody : IsGenerate request → request.body = other.body) (recorder : Recorder) :
    dispatch recorder request = dispatch recorder other := by
  unfold dispatch
  rw [← hmethod, ← hpath]
  split
  · rfl
  · next route hroute =>
    by_cases hserved : request.method ∈ route.endpoint.methods
    · have hserve : serve recorder route.endpoint request.body =
          serve recorder route.endpoint other.body := by
        refine serve_congr (fun hcall => hbody ⟨?_, ?_⟩) recorder
        · rw [hcall] at hserved
          exact List.mem_singleton.1 hserved
        · rw [← Route.ofPath?_eq_some_iff.1 hroute]
          exact endpoint_eq_generate_iff.1 hcall
      simp only [if_pos hserved, hserve]
    · simp only [if_neg hserved]

/-- The layers around all routes stamp the response with the id and count the request; the mark that
    they put on the request is seen by no route. -/
theorem reply_exchange (fresh : Uuid) (recorder : Recorder) (request : Request) :
    (exchange fresh recorder request).reply =
      let reply := dispatch recorder request
      { counted request reply with
        response := RequestId.stamp (RequestId.choose fresh request) reply.response } := by
  have hmarked : dispatch recorder (RequestId.mark (RequestId.choose fresh request) request) =
      dispatch recorder request :=
    dispatch_congr (RequestId.method_mark _ _) (by rw [RequestId.uri_mark])
      (fun _ => RequestId.body_mark _ _) recorder
  simp only [exchange, inner, hmarked, counted, labels, RequestId.method_mark, RequestId.uri_mark]

end CardServer.Service
