import CardServer.Proofs.Service.Conservation
import CardServer.Proofs.Service.Series

/-! # A scrape reports the past

The metrics endpoint folds the samples that wait and then shows all counts, and only once it has
answered is the request counted itself.  So a scrape shows exactly what was counted before it, whether
it was folded already or still waits, and leaves behind the same counts and itself.

* `Meter.reports`               an exposition is a full account of the counts of its meter
* `dispatch_of_scrape`          what a scrape is answered with
* `count_after_scrape`          what a scrape adds to the counts
* `run_of_scrape`               what comes of a scrape at any point of a run
* `scrape_reports_the_past`     a scrape at any point of a run shows what the steps before it counted
-/

namespace CardServer

open Http (Request Response Body)

/-! ## What an exposition says -/

/-- The line that declares the metric of a series. -/
def Series.typeLine : Series → String
  | .requests _ => "# TYPE http_requests_total counter"
  | .durations _ => "# TYPE http_request_duration_seconds summary"
  | .generations _ => "# TYPE ollama_mock_generate_requests_total counter"

/-- The line that shows a series with its count. -/
def Series.sampleLine (sample : Series × Nat) : String := sample.1.text ++ " " ++ toString sample.2

/-- Whether samples, and the lines that declare their metrics, are a full account of some counts. -/
structure Accounts (counts : Series → Nat) (types : List String) (samples : List (Series × Nat)) :
    Prop where
  nodup_samples : (samples.map (·.1)).Nodup
  mem_samples_iff : ∀ series n, (series, n) ∈ samples ↔ counts series = n ∧ n ≠ 0
  nodup_types : types.Nodup
  mem_types_iff : ∀ line, line ∈ types ↔ ∃ sample ∈ samples, sample.1.typeLine = line

/-- Whether the lines of an exposition are a full account of some counts. -/
def Exposition.Reports (exposition : Exposition) (counts : Series → Nat) : Prop :=
  ∃ types samples, Accounts counts types samples ∧
    exposition.text = String.join ((types ++ samples.map Series.sampleLine).map (· ++ "\n"))

theorem Series.declaration_metric (series : Series) :
    series.metric.declaration = series.typeLine := by
  cases series <;> rfl

theorem Metric.declaration_injective : Function.Injective Metric.declaration := by
  intro a b h
  cases a <;> cases b <;> first | rfl | exact absurd h (by decide)

namespace Meter

variable {meter : Meter}

/-- Each metric is declared once, whatever the counts. -/
theorem nodup_declarations (meter : Meter) : meter.declarations.Nodup := by
  have hall : Metric.all.Nodup := by decide
  exact (List.mergeSort_perm _ _).nodup_iff.2
    ((hall.filter _).map Metric.declaration_injective)

/-- The metrics that have a count are declared, and no others. -/
theorem mem_declarations_iff {line : String} :
    line ∈ meter.declarations ↔ ∃ entry ∈ meter.counts, entry.1.typeLine = line := by
  have hall : ∀ metric, metric ∈ Metric.all := fun metric => by cases metric <;> decide
  simp only [declarations, List.mem_mergeSort, List.mem_map, List.mem_filter, hall, true_and,
    List.any_eq_true, decide_eq_true_eq, ← Series.declaration_metric]
  constructor
  · rintro ⟨metric, ⟨entry, hentry, rfl⟩, hline⟩
    exact ⟨entry, hentry, hline⟩
  · rintro ⟨entry, hentry, hline⟩
    exact ⟨_, ⟨entry, hentry, rfl⟩, hline⟩

/-- An exposition is a full account of the counts of its meter, the samples that wait included. -/
theorem reports (h : ProperCounts meter.counts) : Exposition.Reports ⟨meter.fold⟩ meter.count := by
  have hproper := proper_fold h
  have hsorted : ∀ entry, entry ∈ meter.fold.sorted ↔ entry ∈ meter.fold.counts :=
    fun _ => List.mem_mergeSort
  refine ⟨meter.fold.declarations, meter.fold.sorted, ⟨?_, fun series n => ?_, ?_, fun line => ?_⟩,
    rfl⟩
  · exact ((List.mergeSort_perm _ _).map _).nodup_iff.2 hproper.nodup
  · -- Nothing waits any more, so the entries hold all that was counted.
    rw [hsorted, hproper.mem_entry_iff, ← count_fold meter series]
    rfl
  · exact nodup_declarations _
  · simp only [mem_declarations_iff, hsorted]

end Meter

namespace Service

/-! ## The answer to a scrape -/

variable {request : Request}

/-- The series under which a scrape is counted. -/
def scrapeSeries : List Series :=
  [.requests ⟨"GET", "/metrics", 200⟩, .durations ⟨"GET", "/metrics", 200⟩]

/-- The path of a scrape leads to the metrics endpoint. -/
theorem ofPath?_of_scrape (hpath : request.uri.path = "/metrics") :
    Route.ofPath? request.uri.path = some .metrics :=
  Route.ofPath?_eq_some_iff.2 hpath.symm

/-- A scrape is answered with the counters, once the samples that wait have been folded. -/
theorem dispatch_of_scrape (hmethod : request.method = .get) (hpath : request.uri.path = "/metrics")
    (recorder : Recorder) :
    dispatch recorder request = { Reply.silent (metrics recorder) with folds := true } := by
  have hserved : Http.Method.get ∈ Endpoint.metrics.methods := by decide
  have hhead : Http.Method.get ≠ Http.Method.head := by decide
  simp only [dispatch, ofPath?_of_scrape hpath, hmethod, Route.endpoint, if_pos hserved,
    if_neg hhead, serve]

/-- What a scrape brings while a meter is installed. -/
theorem reply_of_scrape (hmethod : request.method = .get) (hpath : request.uri.path = "/metrics")
    {recorder : Recorder} {meter : Meter} (hmeter : recorder.meter = some meter) (fresh : Uuid) :
    let reply := (exchange fresh recorder request).reply
    reply.response.status = 200 ∧ reply.response.body = .exposition ⟨meter.fold⟩ ∧
      reply.counted = scrapeSeries := by
  have hlabels : labels request 200 = ⟨"GET", "/metrics", 200⟩ := by
    rw [labels, hmethod, ofPath?_of_scrape hpath]
    rfl
  have hpage : (metrics recorder).status = 200 ∧
      (metrics recorder).body = .exposition ⟨meter.fold⟩ := by
    simp only [metrics, hmeter, Response.withBody, and_self]
  simp only [reply_exchange, dispatch_of_scrape hmethod hpath, counted, Reply.silent,
    RequestId.status_stamp, RequestId.body_stamp, hpage, hlabels, true_and]
  rfl

/-- A scrape adds itself to the counts and nothing else. -/
theorem count_after_scrape (hmethod : request.method = .get)
    (hpath : request.uri.path = "/metrics") {recorder : Recorder} (h : recorder.meter.isSome)
    (fresh : Uuid) (series : Series) :
    ((Step.request fresh request).after recorder).count series =
      recorder.count series + scrapeSeries.count series := by
  obtain ⟨meter, hmeter⟩ := Option.isSome_iff_exists.1 h
  obtain ⟨-, -, hcounted⟩ := reply_of_scrape hmethod hpath hmeter fresh
  rw [count_step h]
  simp only [Step.sent?, Option.toList_some, List.flatMap_cons, List.flatMap_nil, List.append_nil,
    hcounted]

/-! ## Runs -/

/-- The counts at any point of a run are those of the steps before it. -/
theorem count_after_install (steps : List Step) (series : Series) :
    (after Recorder.absent.install steps).count series =
      (countedBy Recorder.absent.install steps).count series := by
  have hcount : (after Recorder.absent.install steps).count series =
      Recorder.absent.install.count series + (countedBy Recorder.absent.install steps).count series :=
    count_after rfl steps series
  rwa [show Recorder.absent.install.count series = 0 from rfl, Nat.zero_add] at hcount

/-- At any point of a run a scrape would report what the steps before it counted. -/
theorem reports_after_install {steps : List Step} {meter : Meter}
    (hmeter : (after Recorder.absent.install steps).meter = some meter) :
    Exposition.Reports ⟨meter.fold⟩ fun series =>
      (countedBy Recorder.absent.install steps).count series := by
  have hstart : Recorder.absent.install.IsProper := by
    rintro _ ⟨⟩
    exact .nil
  have hcounts : (fun series => (countedBy Recorder.absent.install steps).count series) =
      meter.count := by
    funext series
    rw [← count_after_install, Recorder.count, hmeter]
    rfl
  rw [hcounts]
  exact Meter.reports (isProper_after hstart steps meter hmeter)

/-- What comes of a scrape at any point of a run. -/
theorem run_of_scrape {steps : List Step} {i : Nat} {fresh : Uuid}
    (hstep : steps[i]? = some (.request fresh request)) (hmethod : request.method = .get)
    (hpath : request.uri.path = "/metrics") :
    let start := Recorder.absent.install
    ∃ result exposition,
      (run start steps)[i]? = some (some result, after start (steps.take (i + 1))) ∧
      result.reply.response.status = 200 ∧ result.reply.response.body = .exposition exposition ∧
      exposition.Reports fun series => (countedBy start (steps.take i)).count series := by
  intro start
  -- A meter that is installed is there at any point.
  have hsome : (after start (steps.take i)).meter.isSome := isSome_after rfl _
  obtain ⟨meter, hmeter⟩ := Option.isSome_iff_exists.1 hsome
  obtain ⟨hstatus, hbody, -⟩ := reply_of_scrape hmethod hpath hmeter fresh
  refine ⟨_, _, ?_, hstatus, hbody, reports_after_install hmeter⟩
  rw [getElem?_run, hstep]
  rfl

/-- What has been counted once a scrape at any point of a run is over. -/
theorem count_behind_scrape {steps : List Step} {i : Nat} {fresh : Uuid}
    (hstep : steps[i]? = some (.request fresh request)) (hmethod : request.method = .get)
    (hpath : request.uri.path = "/metrics") (series : Series) :
    let start := Recorder.absent.install
    (after start (steps.take (i + 1))).count series =
      (countedBy start (steps.take i)).count series + scrapeSeries.count series := by
  intro start
  rw [after_take_succ start hstep, count_after_scrape hmethod hpath (isSome_after rfl _),
    count_after_install]

/-- A scrape at any point of a run with an installed meter shows exactly what the steps before it have
    counted, in whatever way upkeep and other scrapes stand among them: the series that were counted,
    each with its count, and the metrics that these belong to.  It then adds itself to the counts and
    changes nothing else, and that is what a scrape right behind it shows in addition. -/
theorem scrape_reports_the_past {steps : List Step} {i : Nat} {fresh : Uuid} {scrape : Request}
    (hstep : steps[i]? = some (.request fresh scrape)) (hmethod : scrape.method = .get)
    (hpath : scrape.uri.path = "/metrics") :
    let start := Recorder.absent.install
    let past := countedBy start (steps.take i)
    let own : List Series :=
      [.requests ⟨"GET", "/metrics", 200⟩, .durations ⟨"GET", "/metrics", 200⟩]
    ∃ result exposition next, (run start steps)[i]? = some (some result, next) ∧
      result.reply.response.status = 200 ∧
      result.reply.response.body = .exposition exposition ∧
      exposition.Reports (fun series => past.count series) ∧
      (∀ series, (after start (steps.take i)).count series = past.count series ∧
        next.count series = past.count series + own.count series) ∧
      ∀ (fresh' : Uuid) (second : Request), steps[i + 1]? = some (.request fresh' second) →
        second.method = .get → second.uri.path = "/metrics" →
        ∃ result' exposition' next', (run start steps)[i + 1]? = some (some result', next') ∧
          result'.reply.response.body = .exposition exposition' ∧
          exposition'.Reports fun series => past.count series + own.count series := by
  intro start past own
  have hnext : ∀ series, (after start (steps.take (i + 1))).count series =
      past.count series + own.count series := count_behind_scrape hstep hmethod hpath
  obtain ⟨result, exposition, hrun, hstatus, hbody, hreports⟩ := run_of_scrape hstep hmethod hpath
  refine ⟨result, exposition, _, hrun, hstatus, hbody, hreports,
    fun series => ⟨count_after_install _ series, hnext series⟩, ?_⟩
  intro fresh' second hsecond hget hmetrics
  obtain ⟨result', exposition', hrun', -, hbody', hreports'⟩ :=
    run_of_scrape hsecond hget hmetrics
  have hcounts : (fun series => (countedBy start (steps.take (i + 1))).count series) =
      fun series => past.count series + own.count series :=
    funext fun series => (count_after_install _ series).symm.trans (hnext series)
  exact ⟨result', exposition', _, hrun', hbody', hcounts ▸ hreports'⟩

/-- A scrape behind another one, with a ping and upkeep before the two. -/
theorem second_scrape_behind_ping :
    let ping : Request := ⟨.get, ⟨none, none, "/ping", none⟩, .http11, [], .empty⟩
    let scrape : Request := ⟨.get, ⟨none, none, "/metrics", some "a"⟩, .http11, [], .empty⟩
    let steps : List Step := [.request (.ofRandom 0) ping, .upkeep, .request (.ofRandom 1) scrape,
      .request (.ofRandom 2) scrape]
    let pings : List Series := [.requests ⟨"GET", "/ping", 200⟩, .durations ⟨"GET", "/ping", 200⟩]
    let scrapes : List Series :=
      [.requests ⟨"GET", "/metrics", 200⟩, .durations ⟨"GET", "/metrics", 200⟩]
    ∃ result exposition next, (run Recorder.absent.install steps)[3]? = some (some result, next) ∧
      result.reply.response.body = .exposition exposition ∧
      exposition.Reports fun series => pings.count series + scrapes.count series := by
  intro ping scrape steps pings scrapes
  have hpast : countedBy Recorder.absent.install (steps.take 2) = pings := by
    with_unfolding_all rfl
  have hfirst : steps[2]? = some (.request (.ofRandom 1) scrape) := rfl
  obtain ⟨_, _, _, -, -, -, -, -, hsecond⟩ := scrape_reports_the_past hfirst rfl rfl
  rw [hpast] at hsecond
  exact hsecond (.ofRandom 2) scrape rfl rfl rfl

end Service

end CardServer
