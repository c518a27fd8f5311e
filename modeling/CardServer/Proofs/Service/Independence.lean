import CardServer.Proofs.Service.Dispatch
import CardServer.Proofs.Service.Run

/-! # Requests do not influence one another

Only a scrape looks at the recorder, and what a request counts does not depend on what was counted
before.  So every other request is answered as if it were the first one, and the counters add up the
same whatever the order of the steps.

* `dispatch_eq_of_path_ne`     the reply to any request but a scrape is the same for all recorders
* `counted_exchange_eq`        what a request counts is the same for all recorders
* `count_after_eq_of_perm`     the counters do not depend on the order of the steps
* `run_independent_of_order`   the order of the steps changes neither results nor counters
-/

namespace CardServer.Service

open Http (Request)

/-! ## Results -/

/-- The route for scrapes. -/
theorem endpoint_eq_metrics_iff {route : Route} :
    route.endpoint = .metrics ↔ route.path = "/metrics" := by
  cases route <;> decide

/-- All endpoints but one answer without a look at the recorder. -/
theorem serve_eq_of_ne {endpoint : Endpoint} (h : endpoint ≠ .metrics) (recorder other : Recorder)
    (body : ByteArray) : serve recorder endpoint body = serve other endpoint body := by
  cases endpoint with
  | metrics => exact absurd rfl h
  | models | generate | ping | health => rfl

/-- The reply to any request but a scrape is the same for all recorders. -/
theorem dispatch_eq_of_path_ne {request : Request} (h : request.uri.path ≠ "/metrics")
    (recorder other : Recorder) : dispatch recorder request = dispatch other request := by
  unfold dispatch
  split
  · rfl
  · next route hroute =>
    have hendpoint : route.endpoint ≠ .metrics := by
      intro heq
      have hpath := endpoint_eq_metrics_iff.1 heq
      rw [Route.ofPath?_eq_some_iff.1 hroute] at hpath
      exact h hpath
    simp only [serve_eq_of_ne hendpoint recorder other]

/-- All that comes of a request but a scrape is the same for all recorders. -/
theorem exchange_eq_of_path_ne {request : Request} (h : request.uri.path ≠ "/metrics")
    (fresh : Uuid) (recorder other : Recorder) :
    exchange fresh recorder request = exchange fresh other request := by
  have hmarked : (RequestId.mark (RequestId.choose fresh request) request).uri.path ≠ "/metrics" := by
    rwa [RequestId.uri_mark]
  simp only [exchange, inner, dispatch_eq_of_path_ne hmarked recorder other]

/-! ## Counters -/

/-- Status and own counts of a reply are the same for all recorders, even if it is one to a scrape. -/
theorem dispatch_counted_eq (recorder other : Recorder) (request : Request) :
    (dispatch recorder request).response.status = (dispatch other request).response.status ∧
      (dispatch recorder request).counted = (dispatch other request).counted := by
  by_cases h : request.uri.path = "/metrics"
  · have hroute : Route.ofPath? request.uri.path = some .metrics :=
      Route.ofPath?_eq_some_iff.2 h.symm
    simp only [dispatch, hroute]
    -- A scrape shows the recorder in its body only, which `HEAD` leaves out.
    split
    · split <;> exact ⟨rfl, rfl⟩
    · exact ⟨rfl, rfl⟩
  · rw [dispatch_eq_of_path_ne h recorder other]
    exact ⟨rfl, rfl⟩

/-- What a request counts is the same for all recorders. -/
theorem counted_exchange_eq (fresh : Uuid) (recorder other : Recorder) (request : Request) :
    (exchange fresh recorder request).reply.counted =
      (exchange fresh other request).reply.counted := by
  obtain ⟨hstatus, hcounted⟩ := dispatch_counted_eq recorder other
    (RequestId.mark (RequestId.choose fresh request) request)
  simp only [exchange, inner, counted, hstatus, hcounted]

/-- What a step counts, whatever was counted before. -/
def Step.counted : Step → List Series
  | .request fresh sent => (exchange fresh Recorder.absent.install sent).reply.counted
  | _ => []

/-- A run counts what its steps count. -/
theorem countedBy_eq_flatMap (recorder : Recorder) (steps : List Step) :
    countedBy recorder steps = steps.flatMap Step.counted := by
  induction steps generalizing recorder with
  | nil => rfl
  | cons step rest ih =>
    have hrest := ih (step.after recorder)
    unfold countedBy at hrest ⊢
    rw [sent, List.flatMap_append, hrest, List.flatMap_cons]
    congr 1
    cases step with
    | request fresh request =>
      show (exchange fresh recorder request).reply.counted ++ [] = _
      rw [List.append_nil]
      exact counted_exchange_eq fresh recorder _ request
    | malformed | upkeep | install => rfl

/-- Without a meter nothing is counted, and only one kind of step installs it. -/
theorem meter_after_eq_none {recorder : Recorder} {steps : List Step}
    (h : recorder.meter = none) (hsteps : Step.install ∉ steps) :
    (after recorder steps).meter = none := by
  induction steps generalizing recorder with
  | nil => exact h
  | cons step rest ih =>
    rw [List.mem_cons, not_or] at hsteps
    show (after (step.after recorder) rest).meter = none
    refine ih ?_ hsteps.2
    cases step with
    | request fresh request =>
      show (Exchange.recorder _ recorder).meter = none
      unfold Exchange.recorder
      split <;> simp [Recorder.record, Recorder.fold, h]
    | malformed fault => exact h
    | upkeep => simp [Step.after, Recorder.fold, h]
    | install => exact absurd rfl hsteps.1

/-- The counters do not depend on the order of the steps. -/
theorem count_after_eq_of_perm {recorder : Recorder} {steps shuffled : List Step}
    (h : steps.Perm shuffled) (hmeter : recorder.meter.isSome ∨ Step.install ∉ steps)
    (series : Series) :
    (after recorder steps).count series = (after recorder shuffled).count series := by
  by_cases hsome : recorder.meter.isSome
  · have hcounted : (steps.flatMap Step.counted).Perm (shuffled.flatMap Step.counted) :=
      h.flatMap_right _
    rw [count_after hsome, count_after hsome, countedBy_eq_flatMap, countedBy_eq_flatMap,
      hcounted.count_eq]
  · have hnone : recorder.meter = none := by simpa using hsome
    have hsteps := hmeter.resolve_left hsome
    have hshuffled : Step.install ∉ shuffled := fun hmem => hsteps (h.mem_iff.2 hmem)
    simp only [Recorder.count, meter_after_eq_none hnone hsteps,
      meter_after_eq_none hnone hshuffled]

/-! ## Runs -/

/-- A request but a scrape is answered in every run as it is by a server that has just started. -/
theorem outcome_of_path_ne {recorder : Recorder} {steps : List Step} {i : Nat} {fresh : Uuid}
    {request : Request} (hstep : steps[i]? = some (.request fresh request))
    (hpath : request.uri.path ≠ "/metrics") :
    (run recorder steps)[i]?.map (·.1) =
      some (some (exchange fresh Recorder.absent.install request)) := by
  rw [getElem?_run, hstep]
  show some (some (exchange fresh (after recorder (steps.take i)) request)) = _
  rw [exchange_eq_of_path_ne hpath fresh _ Recorder.absent.install]

/-- The order of the steps changes neither what comes of a request, a scrape apart, nor the counters at
    the end.  Wherever a request stands it is answered as the first one of a new server.  The counters
    are those of a process whose meter is installed before it serves, as the program does it, and
    maybe again later; they also agree, being zero, if it is never installed. -/
theorem run_independent_of_order {recorder : Recorder} {steps shuffled : List Step}
    (h : steps.Perm shuffled) :
    (∀ (i j : Nat) (fresh : Uuid) (request : Request),
      steps[i]? = some (.request fresh request) → shuffled[j]? = some (.request fresh request) →
      request.uri.path ≠ "/metrics" →
      let alone := exchange fresh Recorder.absent.install request
      (run recorder steps)[i]?.map (·.1) = some (some alone) ∧
        (run recorder shuffled)[j]?.map (·.1) = some (some alone)) ∧
    (recorder.meter.isSome ∨ Step.install ∉ steps →
      ∀ series, (after recorder steps).count series = (after recorder shuffled).count series) := by
  refine ⟨fun i j fresh request hi hj hpath => ?_, fun hmeter series => ?_⟩
  · exact ⟨outcome_of_path_ne hi hpath, outcome_of_path_ne hj hpath⟩
  · exact count_after_eq_of_perm h hmeter series

/-- A generate call in front of a scrape and the same call behind it. -/
theorem run_of_call_around_scrape :
    let call : Request :=
      ⟨.post, ⟨none, none, "/api/generate", none⟩, .http11, [], "\x7b\x7d".toUTF8⟩
    let scrape : Request := ⟨.get, ⟨none, none, "/metrics", none⟩, .http11, [], .empty⟩
    let steps : List Step := [.request (.ofRandom 0) call, .install, .malformed .method, .upkeep,
      .request (.ofRandom 1) scrape]
    let start := Recorder.absent.install
    (run start steps)[0]?.map (·.1) = (run start steps.reverse)[4]?.map (·.1) ∧
      ∀ series, (after start steps).count series = (after start steps.reverse).count series := by
  intro call scrape steps start
  have hpath : call.uri.path ≠ "/metrics" := by decide
  have hmeter : start.meter.isSome := rfl
  obtain ⟨hresults, hcounters⟩ :=
    run_independent_of_order (List.reverse_perm steps).symm
  obtain ⟨hfirst, hlast⟩ := hresults 0 4 (.ofRandom 0) call rfl rfl hpath
  exact ⟨hfirst.trans hlast.symm, hcounters (.inl hmeter)⟩

end CardServer.Service
