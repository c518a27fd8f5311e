import CardServer.Proofs.RequestId.Choice
import CardServer.Service

/-! # One id for every request

The id of a request is seen by three observers: the parts within the layer of ids, the span and the
client.  They agree, whatever the answer is and whatever header fields the request and the answer
bring along.

* `answer_eq`                    what a handler sees and what becomes of its response
* `exchange_eq`                  what the service sees and what becomes of its response
* `requestId_span_exchange`, `valuesOf_response_exchange`   the id in span and response
* `exchange_runs_under_one_id`   the id of a request for all observers
-/

namespace CardServer.RequestId

open Http (Request Response Header)

variable (fresh : Uuid) (request : Request)

/-- The request as all parts within the layer of ids see it. -/
def seen : Request :=
  { request with
    headers := Header.set headerName (Header.bytesOf (choose fresh request)) request.headers }

theorem mark_choose : mark (choose fresh request) request = seen fresh request := by
  rw [mark, value?_choose]
  rfl

theorem stamp_choose (response : Response) :
    stamp (choose fresh request) response =
      response.setHeader headerName (choose fresh request) := by
  rw [stamp, value?_choose]

/-- What is seen of the id is the id alone. -/
theorem valuesOf_seen :
    (seen fresh request).valuesOf headerName = [Header.bytesOf (choose fresh request)] :=
  Header.valuesOf_set headerName _ request.headers

/-- The id that is shown is the id of the request, and no dash in its place. -/
theorem text?_seen :
    ((seen fresh request).valuesOf headerName).head?.bind Header.text? =
      some (choose fresh request) := by
  rw [valuesOf_seen]
  exact text?_bytesOf_choose fresh request

/-- What a handler sees and what becomes of its response. -/
theorem answer_eq (handler : Request → Response) :
    answer fresh request handler =
      (handler (seen fresh request)).setHeader headerName (choose fresh request) := by
  rw [answer, mark_choose, stamp_choose]

/-- What the service sees and what becomes of its response. -/
theorem exchange_eq (recorder : Recorder) :
    Service.exchange fresh recorder request =
      let inside := Service.inner recorder (seen fresh request)
      { inside with
        reply := { inside.reply with
          response := inside.reply.response.setHeader headerName (choose fresh request) } } := by
  rw [Service.exchange, mark_choose, stamp_choose]

/-- The span of a request shows its id. -/
theorem requestId_span_exchange (recorder : Recorder) :
    (Service.exchange fresh recorder request).span.requestId = choose fresh request := by
  rw [exchange_eq]
  show (((seen fresh request).valuesOf headerName).head?.bind Header.text?).getD "-" = _
  rw [text?_seen]
  rfl

/-- The response to a request carries its id and no other. -/
theorem valuesOf_response_exchange (recorder : Recorder) :
    (Service.exchange fresh recorder request).reply.response.valuesOf headerName =
      [choose fresh request] := by
  rw [exchange_eq]
  exact Response.valuesOf_setHeader headerName _ _

/-- Every request that can be built runs under one id: the first value that was sent if that can be
    used, and else a fresh UUID.  The inner parts find this id alone on the request, its span shows it,
    and the response carries it alone, whatever the handler set there. -/
theorem exchange_runs_under_one_id {method uri : String} {version : Http.Version}
    {sent : List (String × List UInt8)} {body : ByteArray} {request : Request}
    (h : Request.build method uri version sent body = .ok request) (bits : BitVec 128)
    (recorder : Recorder) :
    let supplied := (sent.filter fun field => field.1.map Char.toLower = "x-request-id").map (·.2)
    let fresh := Uuid.ofRandom bits
    let result := Service.exchange fresh recorder request
    ∃ (id : String) (inside : Request),
      ((∃ value, supplied.head? = some value ∧ IsUsable value ∧ Header.bytesOf id = value) ∨
        (∀ value, supplied.head? = some value → ¬ IsUsable value) ∧
          id = fresh.text ∧ Uuid.IsVersion4 id.toList) ∧
      value? id = some (Header.bytesOf id) ∧
      inside = { request with
        headers := Header.set "x-request-id" (Header.bytesOf id) request.headers } ∧
      inside.valuesOf "x-request-id" = [Header.bytesOf id] ∧
      (inside.valuesOf "x-request-id").head?.bind Header.text? = some id ∧
      (∀ handler : Request → Response,
        answer fresh request handler = (handler inside).setHeader "x-request-id" id ∧
          (answer fresh request handler).valuesOf "x-request-id" = [id]) ∧
      result.reply.response =
        (Service.inner recorder inside).reply.response.setHeader "x-request-id" id ∧
      result.reply.response.valuesOf "x-request-id" = [id] ∧
      result.span = (Service.inner recorder inside).span ∧ result.span.requestId = id := by
  intro supplied fresh result
  let id := choose fresh request
  let inside := seen fresh request
  have hsupplied : request.valuesOf headerName = supplied := Request.valuesOf_of_build h headerName
  have hresult : result = _ := exchange_eq fresh request recorder
  refine ⟨id, inside, ?_, value?_choose fresh request, rfl, valuesOf_seen fresh request,
    text?_seen fresh request, fun handler => ?_, ?_, ?_, ?_, ?_⟩
  · have hchoice := choose_cases fresh request
    rw [hsupplied] at hchoice
    rcases hchoice with hvalue | ⟨hnone, hfresh⟩
    · exact .inl hvalue
    · refine .inr ⟨hnone, hfresh, ?_⟩
      show Uuid.IsVersion4 (choose fresh request).toList
      rw [hfresh]
      exact Uuid.isVersion4_text_ofRandom bits
  · have hanswer := answer_eq fresh request handler
    refine ⟨hanswer, ?_⟩
    rw [hanswer]
    exact Response.valuesOf_setHeader headerName id _
  · rw [hresult]
    rfl
  · rw [hresult]
    exact Response.valuesOf_setHeader headerName id _
  · rw [hresult]
  · rw [hresult]
    show ((inside.valuesOf headerName).head?.bind Header.text?).getD "-" = id
    rw [text?_seen]
    rfl

/-- A value with a tab comes first and one that is no text second; the path has no route. -/
theorem exchange_runs_under_first_id :
    let sent : List (String × List UInt8) :=
      [("X-Request-Id", [0x61, 0x09, 0x62]), ("x-request-id", [0xff])]
    let request : Request :=
      ⟨⟨"PURGE", by decide⟩, ⟨none, none, "/nowhere", none⟩, .http11,
        [⟨"x-request-id", [0x61, 0x09, 0x62]⟩, ⟨"x-request-id", [0xff]⟩], .empty⟩
    let result := Service.exchange (.ofRandom 0) .absent request
    Request.build "PURGE" "/nowhere" .http11 sent .empty = .ok request ∧
      ∃ id, Header.bytesOf id = [0x61, 0x09, 0x62] ∧
        result.reply.response.valuesOf "x-request-id" = [id] ∧ result.span.requestId = id := by
  intro sent request result
  have hbuild : Request.build "PURGE" "/nowhere" .http11 sent .empty = .ok request := by
    with_unfolding_all rfl
  refine ⟨hbuild, ?_⟩
  obtain ⟨id, inside, hchoice, -, -, -, -, -, -, hvalues, -, hspan⟩ :=
    exchange_runs_under_one_id hbuild 0 .absent
  refine ⟨id, ?_, hvalues, hspan⟩
  have hfirst : ((sent.filter fun field => field.1.map Char.toLower = "x-request-id").map
      (·.2)).head? = some [0x61, 0x09, 0x62] := by decide +kernel
  have husable : IsUsable [0x61, 0x09, 0x62] :=
    isUsable_iff.2 ⟨List.cons_ne_nil _ _, by decide⟩
  rcases hchoice with ⟨value, hvalue, -, hbytes⟩ | ⟨hnone, -⟩
  · rw [hfirst] at hvalue
    rw [hbytes, ← Option.some.inj hvalue]
  · exact absurd husable (hnone _ hfirst)

end CardServer.RequestId
