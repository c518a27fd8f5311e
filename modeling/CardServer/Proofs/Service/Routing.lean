import CardServer.Proofs.Service.Conservation
import CardServer.Proofs.Service.Dispatch

/-! # Every request has one route or none

Paths are compared as they stand, so every request falls into one of four classes: its path has no
route, its route does not serve its method, it is a generate call that is too long, or it is served.
Status, header fields, body, labels and traces of the answer follow from the class alone.

* `mem_pages_iff`, `mem_calls_iff`   the paths of the routes, of either kind
* `answer_cases`                     the class of every request, with the reply to it
* `isCountedUnder_exchange`          the labels under which a request is counted
* `withoutBody_page`                 `HEAD` brings what `GET` brings, without the body
* `exchange_by_route`                the answer to every request, by its method and path
-/

namespace CardServer.Service

open Http (Request Response Body Method)

/-! ## Paths and methods -/

/-- The paths of the routes for `GET`. -/
def pages : List String := ["/v1/list", "/api/tags", "/ping", "/health", "/metrics"]

/-- The paths of the routes for generate calls. -/
def calls : List String := ["/v1/generate", "/api/generate"]

theorem mem_pages_iff {path : String} :
    path ∈ pages ↔ ∃ route, Route.ofPath? path = some route ∧ route.endpoint ≠ .generate := by
  simp only [Route.ofPath?_eq_some_iff]
  constructor
  · intro h
    simp only [pages, List.mem_cons, List.not_mem_nil, or_false] at h
    rcases h with rfl | rfl | rfl | rfl | rfl
    · exact ⟨.listV1, rfl, by decide⟩
    · exact ⟨.tags, rfl, by decide⟩
    · exact ⟨.ping, rfl, by decide⟩
    · exact ⟨.health, rfl, by decide⟩
    · exact ⟨.metrics, rfl, by decide⟩
  · rintro ⟨route, rfl, hendpoint⟩
    cases route with
    | generateV1 | generate => exact absurd rfl hendpoint
    | listV1 | tags | ping | health | metrics => decide

theorem mem_calls_iff {path : String} :
    path ∈ calls ↔ ∃ route, Route.ofPath? path = some route ∧ route.endpoint = .generate := by
  simp only [Route.ofPath?_eq_some_iff]
  constructor
  · intro h
    simp only [calls, List.mem_cons, List.not_mem_nil, or_false] at h
    rcases h with rfl | rfl
    · exact ⟨.generateV1, rfl, rfl⟩
    · exact ⟨.generate, rfl, rfl⟩
  · rintro ⟨route, rfl, hendpoint⟩
    have hpath := endpoint_eq_generate_iff.1 hendpoint
    simpa [calls] using hpath

/-- The paths that have a route. -/
theorem exists_ofPath?_iff {path : String} :
    (∃ route, Route.ofPath? path = some route) ↔ path ∈ pages ∨ path ∈ calls := by
  rw [mem_pages_iff, mem_calls_iff]
  constructor
  · rintro ⟨route, hroute⟩
    by_cases hendpoint : route.endpoint = .generate
    · exact .inr ⟨route, hroute, hendpoint⟩
    · exact .inl ⟨route, hroute, hendpoint⟩
  · rintro (⟨route, hroute, -⟩ | ⟨route, hroute, -⟩) <;> exact ⟨route, hroute⟩

/-- The pages serve `GET` and `HEAD`. -/
theorem mem_methods_of_ne {endpoint : Endpoint} (h : endpoint ≠ .generate) (method : Method) :
    method ∈ endpoint.methods ↔ method = .get ∨ method = .head := by
  cases endpoint with
  | generate => exact absurd rfl h
  | models | ping | health | metrics => simp [Endpoint.methods]

/-- Whether a route serves the method of a request. -/
def IsServed (request : Request) : Prop :=
  request.uri.path ∈ pages ∧ (request.method = .get ∨ request.method = .head) ∨
    request.uri.path ∈ calls ∧ request.method = .post

theorem isServed_iff {request : Request} {route : Route}
    (h : Route.ofPath? request.uri.path = some route) :
    IsServed request ↔ request.method ∈ route.endpoint.methods := by
  simp only [IsServed, mem_pages_iff, mem_calls_iff, h, Option.some.injEq, exists_eq_left']
  by_cases hcall : route.endpoint = .generate
  · simp [hcall, Endpoint.methods]
  · simp [hcall, mem_methods_of_ne hcall]

/-! ## Answers -/

/-- Whoever reads a page is answered with status 200 and without a list of methods. -/
theorem response_page {endpoint : Endpoint} (h : endpoint ≠ .generate) (recorder : Recorder)
    (request : Request) :
    (page recorder endpoint request).response.status = 200 ∧
      (page recorder endpoint request).response.valuesOf "allow" = [] := by
  unfold page
  cases endpoint with
  | generate => exact absurd rfl h
  | models | ping | health | metrics => split <;> exact ⟨rfl, by with_unfolding_all rfl⟩

/-- A method that the route does not serve. -/
theorem dispatch_of_not_served {request : Request} {route : Route}
    (hroute : Route.ofPath? request.uri.path = some route) (hserved : ¬ IsServed request)
    (recorder : Recorder) :
    dispatch recorder request = .silent (notAllowed route.endpoint) := by
  have hmethod := mt (isServed_iff hroute).2 hserved
  simp only [dispatch, hroute, if_neg hmethod]

/-- The four classes of requests with the answers to them. -/
theorem answer_cases (recorder : Recorder) (request : Request) :
    let reply := dispatch recorder request
    (request.uri.path ∉ pages ∧ request.uri.path ∉ calls ∧ reply = .silent notFound) ∨
      (∃ route, Route.ofPath? request.uri.path = some route ∧ ¬ IsServed request ∧
        reply = .silent (notAllowed route.endpoint)) ∨
      (IsServed request ∧ request.uri.path ∈ calls ∧ bodyLimit < request.body.size ∧
        reply = .silent tooLong) ∨
      (IsServed request ∧ ¬ (request.uri.path ∈ calls ∧ bodyLimit < request.body.size) ∧
        reply.response.status = 200 ∧ reply.response.valuesOf "allow" = []) := by
  intro reply
  rcases dispatch_cases recorder request with ⟨hroute, hreply⟩ | ⟨route, hroute, hmethod, hreply⟩ |
    ⟨⟨hmethod, hpath⟩, hreply⟩ | ⟨route, hroute, hendpoint, hmethod, hreply⟩
  · exact .inl ⟨by simp [mem_pages_iff, hroute], by simp [mem_calls_iff, hroute], hreply⟩
  · exact .inr (.inl ⟨route, hroute, mt (isServed_iff hroute).1 hmethod, hreply⟩)
  · have hcall : request.uri.path ∈ calls := by simpa [calls] using hpath
    have hserved : IsServed request := .inr ⟨hcall, hmethod⟩
    rcases Nat.lt_or_ge bodyLimit request.body.size with hlong | hshort
    · exact .inr (.inr (.inl ⟨hserved, hcall, hlong, hreply.trans (generate_of_lt hlong)⟩))
    · refine .inr (.inr (.inr ⟨hserved, fun h => absurd h.2 (Nat.not_lt.2 hshort), ?_⟩))
      rw [show reply = _ from hreply, generate_of_le hshort]
      exact ⟨rfl, by with_unfolding_all rfl⟩
  · have hpage : request.uri.path ∈ pages := mem_pages_iff.2 ⟨route, hroute, hendpoint⟩
    have hcall : request.uri.path ∉ calls := by
      rw [mem_calls_iff]
      rintro ⟨other, hother, hgenerate⟩
      rw [hroute, Option.some.injEq] at hother
      exact hendpoint (hother ▸ hgenerate)
    refine .inr (.inr (.inr ⟨.inl ⟨hpage, hmethod⟩, fun h => hcall h.1, ?_⟩))
    rw [show reply = _ from hreply]
    exact response_page hendpoint recorder request

/-- The status of the answer to a request is 405 exactly if its path has a route that does not serve
    its method. -/
theorem status_dispatch_eq_iff {recorder : Recorder} {request : Request}
    (h : request.uri.path ∈ pages ∨ request.uri.path ∈ calls) :
    (dispatch recorder request).response.status = 405 ↔ ¬ IsServed request := by
  rcases answer_cases recorder request with ⟨hpage, hcall, -⟩ | ⟨route, -, hserved, hreply⟩ |
    ⟨hserved, -, -, hreply⟩ | ⟨hserved, -, hstatus, -⟩
  · exact absurd h (not_or.2 ⟨hpage, hcall⟩)
  · rw [hreply]
    exact iff_of_true rfl hserved
  · rw [hreply]
    exact iff_of_false (show 413 ≠ 405 by decide) (fun h => h hserved)
  · rw [hstatus]
    exact iff_of_false (by decide) (fun h => h hserved)

/-! ## Lists of methods -/

/-- The methods that a list names, commas between them. -/
def listed (value : String) : List String := (value.toList.splitOn ',').map String.ofList

/-- The answer to a method that is not served lists the methods that are. -/
theorem listed_notAllowed (endpoint : Endpoint) :
    ∃ value, (notAllowed endpoint).valuesOf "allow" = [value] ∧
      listed value = endpoint.methods.map (·.name) := by
  cases endpoint with
  | generate => exact ⟨"POST", by decide, by decide⟩
  | models | ping | health | metrics => exact ⟨"GET,HEAD", by decide, by decide⟩

/-! ## Labels -/

/-- Whether the series that are counted hold one request and one duration, both under some labels. -/
def IsCountedUnder (labels : RequestLabels) (counted : List Series) : Prop :=
  ∀ other,
    counted.count (.requests other) = (if other = labels then 1 else 0) ∧
      counted.count (.durations other) = (if other = labels then 1 else 0)

/-- A request is counted once, under its method, the path of its route and the status of its
    answer. -/
theorem isCountedUnder_exchange (fresh : Uuid) (recorder : Recorder) (request : Request) :
    let result := exchange fresh recorder request
    IsCountedUnder (answerLabels (request, result)) result.reply.counted := by
  intro result other
  have htally := tally_exchange fresh recorder request
  rw [htally.requests, htally.durations, List.countP_singleton]
  simp [eq_comm, result]

/-! ## `HEAD` -/

/-- `HEAD` brings what `GET` brings, without the body. -/
theorem withoutBody_page (endpoint : Endpoint) (recorder : Recorder) (request : Request) :
    (page recorder endpoint { request with method := .head }).response =
      (page recorder endpoint { request with method := .get }).response.withoutBody := by
  have hget : ¬ Method.get = Method.head := by decide
  simp only [page, if_neg hget, if_true]

theorem stamp_withoutBody (id : String) (response : Response) :
    RequestId.stamp id response.withoutBody = (RequestId.stamp id response).withoutBody := by
  unfold RequestId.stamp
  split <;> rfl

/-! ## Exchanges -/

/-- The response to a request is what its route answers, under its id. -/
theorem response_exchange (fresh : Uuid) (recorder : Recorder) (request : Request) :
    (exchange fresh recorder request).reply.response =
      RequestId.stamp (RequestId.choose fresh request) (dispatch recorder request).response := by
  rw [reply_exchange]

/-- The status is the one that the route answers with. -/
theorem status_exchange (fresh : Uuid) (recorder : Recorder) (request : Request) :
    (exchange fresh recorder request).reply.response.status =
      (dispatch recorder request).response.status := by
  rw [response_exchange, RequestId.status_stamp]

/-- The body is the one that the route answers with. -/
theorem body_exchange (fresh : Uuid) (recorder : Recorder) (request : Request) :
    (exchange fresh recorder request).reply.response.body =
      (dispatch recorder request).response.body := by
  rw [response_exchange, RequestId.body_stamp]

/-- The list of methods is the one that the route answers with. -/
theorem allow_exchange (fresh : Uuid) (recorder : Recorder) (request : Request) :
    (exchange fresh recorder request).reply.response.valuesOf "allow" =
      (dispatch recorder request).response.valuesOf "allow" := by
  rw [response_exchange]
  exact RequestId.valuesOf_stamp_of_ne (by decide) _ _

/-- `HEAD` for a page brings what `GET` brings, without the body. -/
theorem response_exchange_head {request : Request} (h : request.uri.path ∈ pages) (fresh : Uuid)
    (recorder : Recorder) :
    (exchange fresh recorder { request with method := .head }).reply.response =
      (exchange fresh recorder { request with method := .get }).reply.response.withoutBody := by
  obtain ⟨route, hroute, hendpoint⟩ := mem_pages_iff.1 h
  have hpage : ∀ method, method = .get ∨ method = .head →
      dispatch recorder { request with method } =
        page recorder route.endpoint { request with method } := by
    intro method hmethod
    have hserved : method ∈ route.endpoint.methods := (mem_methods_of_ne hendpoint method).2 hmethod
    simp only [dispatch, hroute, if_pos hserved, page]
  rw [response_exchange, response_exchange, hpage .head (.inr rfl), hpage .get (.inl rfl),
    withoutBody_page, stamp_withoutBody]
  rfl

/-- The list of methods with status 405 names the methods whose requests have another status. -/
theorem allow_of_not_served {request : Request} {route : Route}
    (hroute : Route.ofPath? request.uri.path = some route) (hserved : ¬ IsServed request)
    (fresh : Uuid) (recorder : Recorder) :
    ∃ value, (exchange fresh recorder request).reply.response.valuesOf "allow" = [value] ∧
      ∀ name, name ∈ listed value ↔ ∃ method : Method, method.name = name ∧
        (exchange fresh recorder { request with method }).reply.response.status ≠ 405 := by
  have hreply := dispatch_of_not_served hroute hserved recorder
  -- On the path of a route status 405 means that the method is not served.
  obtain ⟨value, hvalue, hlisted⟩ := listed_notAllowed route.endpoint
  refine ⟨value, by rw [allow_exchange, hreply]; exact hvalue, fun name => ?_⟩
  have hpath := exists_ofPath?_iff.1 ⟨route, hroute⟩
  have hstatus : ∀ method : Method,
      (exchange fresh recorder { request with method }).reply.response.status ≠ 405 ↔
        method ∈ route.endpoint.methods := by
    intro method
    let varied : Request := { request with method }
    have hserved : IsServed varied ↔ method ∈ route.endpoint.methods := isServed_iff hroute
    have hdispatch : (dispatch recorder varied).response.status = 405 ↔ ¬ IsServed varied :=
      status_dispatch_eq_iff hpath
    rw [status_exchange, Ne, hdispatch, hserved, Decidable.not_not]
  simp only [hlisted, hstatus, List.mem_map, and_comm]

/-- A path without a route. -/
theorem exchange_of_no_route {request : Request} (hpage : request.uri.path ∉ pages)
    (hcall : request.uri.path ∉ calls) (fresh : Uuid) (recorder : Recorder) :
    let reply := (exchange fresh recorder request).reply
    reply.response.status = 404 ∧ reply.response.body = .empty ∧
      IsCountedUnder ⟨request.method.name, "unmatched", reply.response.status⟩ reply.counted := by
  intro reply
  have hroute : Route.ofPath? request.uri.path = none := by
    rw [← Option.not_isSome_iff_eq_none, Option.isSome_iff_exists, exists_ofPath?_iff, not_or]
    exact ⟨hpage, hcall⟩
  have hreply : dispatch recorder request = .silent notFound := by simp only [dispatch, hroute]
  have hlabels : answerLabels (request, exchange fresh recorder request) =
      ⟨request.method.name, "unmatched", reply.response.status⟩ := by
    rw [answerLabels, labels, hroute]
    rfl
  refine ⟨?_, ?_, hlabels ▸ isCountedUnder_exchange fresh recorder request⟩
  · rw [show reply.response.status = _ from status_exchange fresh recorder request, hreply]
    rfl
  · rw [show reply.response.body = _ from body_exchange fresh recorder request, hreply]
    rfl

/-- A path with a route; the list of methods comes with status 405. -/
theorem exchange_of_route {request : Request}
    (h : request.uri.path ∈ pages ∨ request.uri.path ∈ calls) (fresh : Uuid) (recorder : Recorder) :
    let reply := (exchange fresh recorder request).reply
    IsCountedUnder ⟨request.method.name, request.uri.path, reply.response.status⟩ reply.counted ∧
      (reply.response.status = 405 ↔ ¬ IsServed request) ∧
      (¬ IsServed request → reply.response.body = .empty ∧
        ∃ value, reply.response.valuesOf "allow" = [value] ∧
          ∀ name, name ∈ listed value ↔ ∃ method : Method, method.name = name ∧
            (exchange fresh recorder { request with method }).reply.response.status ≠ 405) := by
  intro reply
  obtain ⟨route, hroute⟩ := exists_ofPath?_iff.2 h
  have hlabel : Route.label (Route.ofPath? request.uri.path) = request.uri.path := by
    rw [← Route.ofPath?_eq_some_iff.1 hroute]
    exact (Route.label_ofPath?_eq_iff route).2 rfl
  have hlabels : answerLabels (request, exchange fresh recorder request) =
      ⟨request.method.name, request.uri.path, reply.response.status⟩ := by
    rw [answerLabels, labels, hlabel]
  have hstatus : reply.response.status = (dispatch recorder request).response.status :=
    status_exchange fresh recorder request
  refine ⟨hlabels ▸ isCountedUnder_exchange fresh recorder request, ?_, fun hserved => ⟨?_, ?_⟩⟩
  · rw [hstatus]
    exact status_dispatch_eq_iff h
  · rw [show reply.response.body = _ from body_exchange fresh recorder request,
      dispatch_of_not_served hroute hserved]
    rfl
  · exact allow_of_not_served hroute hserved fresh recorder

/-- A request that is served; the handler of generate calls leaves no trace of a call that is too
    long. -/
theorem exchange_of_served {request : Request} (h : IsServed request) (fresh : Uuid)
    (recorder : Recorder) :
    let reply := (exchange fresh recorder request).reply
    reply.response.valuesOf "allow" = [] ∧
      if request.uri.path ∈ calls ∧ bodyLimit < request.body.size then
        reply.response.status = 413 ∧ reply.events = [] ∧
          ∀ source, Series.generations source ∉ reply.counted
      else
        reply.response.status = 200 := by
  intro reply
  have hstatus : reply.response.status = (dispatch recorder request).response.status :=
    status_exchange fresh recorder request
  rw [show reply.response.valuesOf "allow" = _ from allow_exchange fresh recorder request, hstatus]
  rcases answer_cases recorder request with ⟨hpage, hcall, -⟩ | ⟨route, -, hserved, -⟩ |
    ⟨-, hcall, hlong, hreply⟩ | ⟨-, hshort, hok, hnone⟩
  · exact absurd h fun h => h.elim (fun h => hpage h.1) (fun h => hcall h.1)
  · exact absurd h hserved
  · -- The layers around the route count the request, but not as a call that was answered.
    have htraces : reply.events = [] ∧ ∀ source, Series.generations source ∉ reply.counted := by
      rw [show reply = _ from reply_exchange fresh recorder request, hreply]
      exact ⟨rfl, fun source => by simp [counted, Reply.silent]⟩
    rw [hreply, if_pos ⟨hcall, hlong⟩]
    exact ⟨by with_unfolding_all rfl, rfl, htraces⟩
  · rw [if_neg hshort]
    exact ⟨hnone, hok⟩

/-- The answer to every request, by its method and its path.  A path without a route is answered with
    404; a method that the route does not serve with 405 and the list of those that it serves; any
    other request with 200, unless it is a generate call that is too long, which is answered with 413
    and leaves no trace of a handler.  What `HEAD` brings is what `GET` brings, without the body. -/
theorem exchange_by_route (fresh : Uuid) (recorder : Recorder) (request : Request) :
    let reply := (exchange fresh recorder request).reply
    let response := reply.response
    let path := request.uri.path
    (path ∉ pages ∧ path ∉ calls →
      response.status = 404 ∧ response.body = .empty ∧
        IsCountedUnder ⟨request.method.name, "unmatched", response.status⟩ reply.counted) ∧
    (path ∈ pages ∨ path ∈ calls →
      IsCountedUnder ⟨request.method.name, path, response.status⟩ reply.counted ∧
        (response.status = 405 ↔ ¬ IsServed request) ∧
        (¬ IsServed request →
          response.body = .empty ∧ ∃ value, response.valuesOf "allow" = [value] ∧
            ∀ name, name ∈ listed value ↔ ∃ method : Method, method.name = name ∧
              (exchange fresh recorder { request with method }).reply.response.status ≠ 405)) ∧
    (IsServed request →
      response.valuesOf "allow" = [] ∧
        if path ∈ calls ∧ 2097152 < request.body.size then
          response.status = 413 ∧ reply.events = [] ∧
            ∀ source, Series.generations source ∉ reply.counted
        else
          response.status = 200) ∧
    (path ∈ pages →
      let get := (exchange fresh recorder { request with method := .get }).reply.response
      let head := (exchange fresh recorder { request with method := .head }).reply.response
      head.status = get.status ∧ head.headers = get.headers ∧ head.length = get.length ∧
        head.body = .empty) := by
  intro reply response path
  refine ⟨?_, ?_, ?_, ?_⟩
  · rintro ⟨hpage, hcall⟩
    exact exchange_of_no_route hpage hcall fresh recorder
  · intro hpath
    exact exchange_of_route hpath fresh recorder
  · intro hserved
    exact exchange_of_served hserved fresh recorder
  · intro hpage get head
    have hhead : head = get.withoutBody := response_exchange_head hpage fresh recorder
    rw [hhead]
    exact ⟨rfl, rfl, rfl, rfl⟩

end CardServer.Service
