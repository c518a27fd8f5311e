import CardServer.Proofs.Service.Routing
import CardServer.Proofs.Service.Series
import Mathlib.Data.Finset.Prod

/-! # How many series there can be

Under which labels a request is counted is settled by its method and by what its path leads to: one of
the seven routes, or none.  For these two the status is the same whatever else the request holds, save
that a generate call can also be too long.  So a client that sends requests with a few methods makes a
few series only, whatever paths, bodies and header fields it makes up.

* `status_dispatch_cases`       the status of an answer by method and route
* `answerLabels_mem_labelSets`  the labels that one request is counted under
* `labels_of_countedBy`         the labels that a run counts under
* `series_are_bounded`          how many series there are at every point of a run
-/

namespace CardServer.Service

open Http (Request Method)

/-! ## The labels of one request -/

/-- The status of the answer to a method on a route, or on a path without a route, unless the request
    is too long. -/
def usualStatus (method : Method) : Option Route → Nat
  | none => 404
  | some route => if method ∈ route.endpoint.methods then 200 else 405

/-- The status of an answer follows from method and route, save for generate calls that are too
    long. -/
theorem status_dispatch_cases (recorder : Recorder) (request : Request) :
    let status := (dispatch recorder request).response.status
    status = usualStatus request.method (Route.ofPath? request.uri.path) ∨
      IsGenerate request ∧ status = 413 := by
  intro status
  rcases answer_cases recorder request with ⟨hpage, hcall, hreply⟩ |
    ⟨route, hroute, hserved, hreply⟩ | ⟨hserved, hcall, -, hreply⟩ | ⟨hserved, -, hok, -⟩
  · have hroute : Route.ofPath? request.uri.path = none := by
      rw [← Option.not_isSome_iff_eq_none, Option.isSome_iff_exists, exists_ofPath?_iff, not_or]
      exact ⟨hpage, hcall⟩
    refine .inl ?_
    show (dispatch recorder request).response.status = _
    rw [hreply, hroute]
    rfl
  · refine .inl ?_
    show (dispatch recorder request).response.status = _
    rw [hreply, hroute, usualStatus, if_neg (mt (isServed_iff hroute).2 hserved)]
    rfl
  · -- Only a `POST` is served at the path of a generate call.
    obtain ⟨route, hroute, hendpoint⟩ := mem_calls_iff.1 hcall
    have hmethod := (isServed_iff hroute).1 hserved
    rw [hendpoint] at hmethod
    refine .inr ⟨⟨List.mem_singleton.1 hmethod, by simpa [calls] using hcall⟩, ?_⟩
    show (dispatch recorder request).response.status = _
    rw [hreply]
    rfl
  · obtain ⟨route, hroute⟩ := exists_ofPath?_iff.2 (hserved.imp (·.1) (·.1))
    refine .inl ?_
    show (dispatch recorder request).response.status = _
    rw [hok, hroute, usualStatus, if_pos ((isServed_iff hroute).1 hserved)]

/-- What a path can lead to: a route, or none. -/
def targets : Finset (Option Route) := (none :: Route.all.map some).toFinset

theorem mem_targets (route : Option Route) : route ∈ targets := by
  rw [targets, List.mem_toFinset]
  cases route with
  | none => exact List.mem_cons_self
  | some route => exact List.mem_cons_of_mem _ (List.mem_map_of_mem (Route.mem_all route))

theorem label_mem (route : Option Route) :
    Route.label route ∈ ["/v1/list", "/api/tags", "/v1/generate", "/api/generate", "/ping", "/health",
      "/metrics", "unmatched"] := by
  cases route with
  | none => decide
  | some route => cases route <;> decide

/-- The labels of requests with some methods that are not too long. -/
def usualLabels (methods : Finset Method) : Finset RequestLabels :=
  (methods ×ˢ targets).image fun (method, route) =>
    ⟨method.name, Route.label route, usualStatus method route⟩

/-- The labels of generate calls that are too long. -/
def tooLongLabels : Finset RequestLabels :=
  {⟨"POST", "/v1/generate", 413⟩, ⟨"POST", "/api/generate", 413⟩}

/-- The labels that requests with some methods can be counted under. -/
def labelSets (methods : Finset Method) : Finset RequestLabels :=
  usualLabels methods ∪ tooLongLabels

/-- For each method there are eight labels, and there are two more for calls that are too long. -/
theorem card_labelSets_le (methods : Finset Method) :
    (labelSets methods).card ≤ 8 * methods.card + 2 := by
  have htargets : targets.card = 8 := by decide
  have husual : (usualLabels methods).card ≤ methods.card * 8 := by
    refine Finset.card_image_le.trans ?_
    rw [Finset.card_product, htargets]
  have hlong : tooLongLabels.card ≤ 2 := Finset.card_le_two
  have hunion : (labelSets methods).card ≤ (usualLabels methods).card + tooLongLabels.card :=
    Finset.card_union_le _ _
  omega

/-- No label for a path is taken from a request. -/
theorem path_of_mem_labelSets {methods : Finset Method} {labels : RequestLabels}
    (h : labels ∈ labelSets methods) :
    labels.path ∈ ["/v1/list", "/api/tags", "/v1/generate", "/api/generate", "/ping", "/health",
      "/metrics", "unmatched"] := by
  rcases Finset.mem_union.1 h with h | h
  · obtain ⟨⟨method, route⟩, -, rfl⟩ := Finset.mem_image.1 h
    exact label_mem route
  · simp only [tooLongLabels, Finset.mem_insert, Finset.mem_singleton] at h
    rcases h with rfl | rfl <;> decide

variable {methods : Finset Method}

/-- A request with one of some methods is counted under labels for these methods. -/
theorem answerLabels_mem_labelSets {request : Request} (h : request.method ∈ methods) (fresh : Uuid)
    (recorder : Recorder) :
    answerLabels (request, exchange fresh recorder request) ∈ labelSets methods := by
  rw [answerLabels, status_exchange]
  rcases status_dispatch_cases recorder request with hstatus | ⟨⟨hmethod, hpath⟩, hstatus⟩
  · let route := Route.ofPath? request.uri.path
    refine Finset.mem_union_left _ (Finset.mem_image.2 ⟨(request.method, route), ?_, ?_⟩)
    · exact Finset.mem_product.2 ⟨h, mem_targets route⟩
    · rw [labels, hstatus]
  · refine Finset.mem_union_right _ ?_
    rw [labels, hstatus, hmethod]
    rcases hpath with hpath | hpath <;> rw [hpath] <;> decide

/-- One request is counted under labels for its method alone. -/
theorem labels_of_counted {request : Request} (h : request.method ∈ methods) (fresh : Uuid)
    (recorder : Recorder) {labels : RequestLabels}
    (hmem : .requests labels ∈ (exchange fresh recorder request).reply.counted ∨
      .durations labels ∈ (exchange fresh recorder request).reply.counted) :
    labels ∈ labelSets methods := by
  obtain ⟨own, hcounted, hown⟩ := counted_exchange fresh recorder request
  -- What the handler counts is neither a request nor a duration.
  have hlabels : labels = answerLabels (request, exchange fresh recorder request) := by
    rw [hcounted] at hmem
    rcases hown with ⟨-, source, rfl⟩ | ⟨-, rfl⟩ <;> simpa using hmem
  rw [hlabels]
  exact answerLabels_mem_labelSets h fresh recorder

/-! ## The labels of a run -/

/-- A run whose requests have one of some methods counts under labels for these methods. -/
theorem labels_of_countedBy (recorder : Recorder) {steps : List Step}
    (h : ∀ fresh request, Step.request fresh request ∈ steps → request.method ∈ methods)
    {labels : RequestLabels}
    (hmem : .requests labels ∈ countedBy recorder steps ∨
      .durations labels ∈ countedBy recorder steps) :
    labels ∈ labelSets methods := by
  induction steps generalizing recorder with
  | nil => exact absurd hmem (by simp [countedBy, sent])
  | cons step rest ih =>
    have hrest := ih (step.after recorder) fun fresh request hstep =>
      h fresh request (List.mem_cons_of_mem _ hstep)
    simp only [countedBy, sent, List.flatMap_append, List.mem_append] at hmem hrest
    cases step with
    | request fresh request =>
      have hmethod := h fresh request List.mem_cons_self
      simp only [Step.sent?, Option.toList_some, List.flatMap_cons, List.flatMap_nil,
        List.append_nil] at hmem
      -- The labels are those of the first request or of a later one.
      rcases or_or_or_comm.1 hmem with hfirst | hlater
      · exact labels_of_counted hmethod fresh recorder hfirst
      · exact hrest hlater
    | malformed | upkeep | install =>
      simp only [Step.sent?, Option.toList_none, List.flatMap_nil, List.not_mem_nil,
        false_or] at hmem
      exact hrest hmem

/-! ## The series that are shown -/

/-- Of series that are shown once, there are no more of a kind than there can be. -/
theorem length_filter_le_card {shown : List Series} (hnodup : shown.Nodup) (p : Series → Bool)
    (possible : Finset Series) (h : ∀ series ∈ shown, p series → series ∈ possible) :
    (shown.filter p).length ≤ possible.card := by
  rw [← List.toFinset_card_of_nodup (hnodup.filter p)]
  refine Finset.card_le_card fun series hmem => ?_
  rw [List.mem_toFinset, List.mem_filter] at hmem
  exact h series hmem.1 hmem.2

/-- However long a run is and whatever its requests hold besides their methods: at every point of it
    each series that a scrape shows stands there once, with a count that is not zero.  Its label for
    the path is the path of a route or says that there was none, and there are at most eight series
    of requests for each method and two more, as many series of durations, and three of sources. -/
theorem series_are_bounded {start : Recorder}
    (hstart : start = .absent ∨ start = Recorder.absent.install) (methods : Finset Method)
    (steps : List Step)
    (h : ∀ fresh request, Step.request fresh request ∈ steps → request.method ∈ methods)
    (done : Nat) :
    let recorder := after start (steps.take done)
    let shown := recorder.series
    shown.Nodup ∧ (∀ series, series ∈ shown ↔ 0 < recorder.count series) ∧
      (∀ labels, .requests labels ∈ shown ∨ .durations labels ∈ shown →
        labels.path ∈ ["/v1/list", "/api/tags", "/v1/generate", "/api/generate", "/ping", "/health",
          "/metrics", "unmatched"]) ∧
      (shown.filter (·.metric = .requests)).length ≤ 8 * methods.card + 2 ∧
      (shown.filter (·.metric = .durations)).length ≤ 8 * methods.card + 2 ∧
      (shown.filter (·.metric = .generations)).length ≤ 3 := by
  intro recorder shown
  have hempty : start.IsProper ∧ ∀ series, start.count series = 0 := by
    have habsent : Recorder.IsProper .absent := nofun
    rcases hstart with rfl | rfl
    · exact ⟨habsent, fun _ => rfl⟩
    · exact ⟨habsent.install, fun _ => rfl⟩
  have hproper : recorder.IsProper := isProper_after hempty.1 (steps.take done)
  have hshown : ∀ series, series ∈ shown ↔ 0 < recorder.count series := fun _ =>
    Recorder.mem_series_iff hproper
  have hnodup : shown.Nodup := Recorder.nodup_series hproper
  -- What is shown has been counted by an exchange of the run so far.
  have hcounted : ∀ series ∈ shown, series ∈ countedBy start (steps.take done) := by
    intro series hmem
    have hcount := count_after_le start (steps.take done) series
    rw [hempty.2, Nat.zero_add] at hcount
    exact List.count_pos_iff.1 (Nat.lt_of_lt_of_le ((hshown series).1 hmem) hcount)
  have hlabels : ∀ labels, .requests labels ∈ shown ∨ .durations labels ∈ shown →
      labels ∈ labelSets methods := fun labels hmem =>
    labels_of_countedBy start (fun fresh request hstep => h fresh request (List.mem_of_mem_take hstep))
      (hmem.imp (hcounted _) (hcounted _))
  have hcard := card_labelSets_le methods
  refine ⟨hnodup, hshown, fun labels hmem => path_of_mem_labelSets (hlabels labels hmem), ?_, ?_, ?_⟩
  · have hlength := length_filter_le_card hnodup (·.metric = .requests)
      ((labelSets methods).image .requests) fun series hmem hmetric => by
        cases series with
        | requests labels => exact Finset.mem_image_of_mem _ (hlabels labels (.inl hmem))
        | durations labels | generations source => simp [Series.metric] at hmetric
    exact (hlength.trans Finset.card_image_le).trans hcard
  · have hlength := length_filter_le_card hnodup (·.metric = .durations)
      ((labelSets methods).image .durations) fun series hmem hmetric => by
        cases series with
        | durations labels => exact Finset.mem_image_of_mem _ (hlabels labels (.inr hmem))
        | requests labels | generations source => simp [Series.metric] at hmetric
    exact (hlength.trans Finset.card_image_le).trans hcard
  · have hlength := length_filter_le_card hnodup (·.metric = .generations)
      {.generations .marker, .generations .quoted, .generations .default} fun series hmem hmetric => by
        cases series with
        | generations source => cases source <;> decide
        | requests labels | durations labels => simp [Series.metric] at hmetric
    exact hlength.trans (by decide)

/-- A client that tries paths next to those of the routes, and calls once. -/
theorem series_of_probing_client :
    let probe (path : String) : Step :=
      .request (.ofRandom 0) ⟨.get, ⟨none, none, path, none⟩, .http11, [], .empty⟩
    let call : Step := .request (.ofRandom 1)
      ⟨.post, ⟨none, none, "/api/generate", none⟩, .http11, [], "\x7b\x7d".toUTF8⟩
    let steps : List Step := [probe "/v1/list", probe "/v1/list/", probe "/V1/list", .upkeep, call,
      .malformed .method, probe "/metrics", probe "/%6detrics"]
    let shown := (after Recorder.absent.install steps).series
    shown.Nodup ∧ (∀ series, series ∈ shown ↔
        0 < (after Recorder.absent.install steps).count series) ∧
      (shown.filter (·.metric = .requests)).length ≤ 18 ∧
      (shown.filter (·.metric = .durations)).length ≤ 18 := by
  intro probe call steps shown
  let methods : Finset Method := {.get, .post}
  have hmethods : ∀ fresh request, Step.request fresh request ∈ steps →
      request.method ∈ methods := by
    intro fresh request hstep
    simp only [steps, probe, call, List.mem_cons, Step.request.injEq, reduceCtorEq,
      List.not_mem_nil, or_false, false_or] at hstep
    rcases hstep with ⟨-, rfl⟩ | ⟨-, rfl⟩ | ⟨-, rfl⟩ | ⟨-, rfl⟩ | ⟨-, rfl⟩ | ⟨-, rfl⟩ <;> decide
  have hcard : 8 * methods.card + 2 ≤ 18 := by
    have : methods.card ≤ 2 := Finset.card_le_two
    omega
  obtain ⟨hnodup, hshown, -, hrequests, hdurations, -⟩ :=
    series_are_bounded (.inr rfl) methods steps hmethods steps.length
  rw [List.take_length] at hnodup hshown hrequests hdurations
  exact ⟨hnodup, hshown, hrequests.trans hcard, hdurations.trans hcard⟩

end CardServer.Service
