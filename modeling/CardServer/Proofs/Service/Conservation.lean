import CardServer.Proofs.Service.Dispatch
import CardServer.Proofs.Service.Run

/-! # What the counters say about a run

The three metrics are written at different places: the handler of generate calls counts the source of
the word, and the layer around all endpoints counts the request and samples its duration.  They agree
with each other and with the requests that were answered, whatever the order of the steps.

`Tally` says so of a list of series and a list of answered requests.  It holds of one exchange and of
lists put together, hence of every run.

* `counted_exchange`            what one request counts
* `tally_countedBy`             every run agrees with what it counts
* `counters_agree_throughout`   the counters at every point of a run
-/

namespace CardServer.Service

open Http (Request)

/-- The labels of a request with its answer. -/
def answerLabels (answered : Request × Exchange) : RequestLabels :=
  labels answered.1 answered.2.reply.response.status

/-- What one request counts: itself and its duration, and before that the source of its word if it is
    a generate call that is answered with a card. -/
theorem counted_exchange (fresh : Uuid) (recorder : Recorder) (request : Request) :
    let result := exchange fresh recorder request
    let labels := answerLabels (request, result)
    let IsAnswered := IsGenerate request ∧ result.reply.response.status = 200
    ∃ own, result.reply.counted = own ++ [.requests labels, .durations labels] ∧
      (IsAnswered ∧ (∃ source, own = [.generations source]) ∨ ¬ IsAnswered ∧ own = []) := by
  intro result labels IsAnswered
  let marked := RequestId.mark (RequestId.choose fresh request) request
  -- The layer of ids keeps the status, the method and the path, and so all labels.
  have hstatus : result.reply.response.status = (dispatch recorder marked).response.status :=
    RequestId.status_stamp _ _
  have hlabels : labels = Service.labels marked (dispatch recorder marked).response.status := by
    simp only [labels, answerLabels, hstatus, Service.labels, marked, RequestId.method_mark,
      RequestId.uri_mark]
  have hmarked : IsGenerate marked ↔ IsGenerate request := by simp [IsGenerate, marked]
  refine ⟨(dispatch recorder marked).counted, by rw [hlabels]; rfl, ?_⟩
  show (IsGenerate request ∧ _) ∧ _ ∨ ¬ (IsGenerate request ∧ _) ∧ _
  rw [hstatus, ← hmarked]
  rcases counted_dispatch_cases recorder marked with ⟨hcall, hok, hown⟩ | ⟨hnone, hown⟩
  · exact .inl ⟨⟨hcall, hok⟩, hown⟩
  · exact .inr ⟨hnone, hown⟩

/-- The labels of answered generate calls. -/
theorem labels_eq_generate_iff {request : Request} {status : Nat} :
    (labels request status = ⟨"POST", "/v1/generate", 200⟩ ∨
        labels request status = ⟨"POST", "/api/generate", 200⟩) ↔
      IsGenerate request ∧ status = 200 := by
  have hpost : request.method.name = "POST" ↔ request.method = .post := by
    obtain ⟨⟨name, hname⟩, uri, version, headers, body⟩ := request
    simp [Http.Method.post]
  have hv1 : Route.label (Route.ofPath? request.uri.path) = "/v1/generate" ↔
      request.uri.path = "/v1/generate" := Route.label_ofPath?_eq_iff .generateV1
  have hapi : Route.label (Route.ofPath? request.uri.path) = "/api/generate" ↔
      request.uri.path = "/api/generate" := Route.label_ofPath?_eq_iff .generate
  simp only [labels, RequestLabels.mk.injEq, hpost, hv1, hapi, IsGenerate]
  constructor
  · rintro (⟨hmethod, hpath, hstatus⟩ | ⟨hmethod, hpath, hstatus⟩)
    · exact ⟨⟨hmethod, .inl hpath⟩, hstatus⟩
    · exact ⟨⟨hmethod, .inr hpath⟩, hstatus⟩
  · rintro ⟨⟨hmethod, hpath | hpath⟩, hstatus⟩
    · exact .inl ⟨hmethod, hpath, hstatus⟩
    · exact .inr ⟨hmethod, hpath, hstatus⟩

/-- How often the series of generate calls stand in a list, all sources together. -/
def cards (counted : List Series) : Nat :=
  counted.count (.generations .marker) + counted.count (.generations .quoted) +
    counted.count (.generations .default)

/-- How often requests stand in a list that are generate calls answered with a card. -/
def answeredCalls (counted : List Series) : Nat :=
  counted.count (.requests ⟨"POST", "/v1/generate", 200⟩) +
    counted.count (.requests ⟨"POST", "/api/generate", 200⟩)

/-- The series of a list agree with the requests that were answered, and with each other. -/
structure Tally (counted : List Series) (answered : List (Request × Exchange)) : Prop where
  requests : ∀ labels,
    counted.count (.requests labels) = answered.countP fun entry => answerLabels entry = labels
  durations : ∀ labels,
    counted.count (.durations labels) = answered.countP fun entry => answerLabels entry = labels
  generations : cards counted = answeredCalls counted

namespace Tally

theorem nil : Tally [] [] := ⟨fun _ => rfl, fun _ => rfl, rfl⟩

theorem append {counted more : List Series} {answered others : List (Request × Exchange)}
    (h : Tally counted answered) (hmore : Tally more others) :
    Tally (counted ++ more) (answered ++ others) where
  requests labels := by rw [List.count_append, List.countP_append, h.requests, hmore.requests]
  durations labels := by rw [List.count_append, List.countP_append, h.durations, hmore.durations]
  generations := by
    have hcounted := h.generations
    have hothers := hmore.generations
    simp only [cards, answeredCalls, List.count_append] at hcounted hothers ⊢
    omega

end Tally

/-- One request agrees with what it counts. -/
theorem tally_exchange (fresh : Uuid) (recorder : Recorder) (request : Request) :
    let result := exchange fresh recorder request
    Tally result.reply.counted [(request, result)] := by
  intro result
  obtain ⟨own, hcounted, hown⟩ := counted_exchange fresh recorder request
  change result.reply.counted = _ at hcounted
  -- What the handler counts is neither a request nor a duration.
  have hrequests : ∀ labels, own.count (.requests labels) = 0 := by
    rcases hown with ⟨-, source, rfl⟩ | ⟨-, rfl⟩ <;> simp
  have hdurations : ∀ labels, own.count (.durations labels) = 0 := by
    rcases hown with ⟨-, source, rfl⟩ | ⟨-, rfl⟩ <;> simp
  rw [hcounted]
  constructor
  · intro labels
    rw [List.count_append, hrequests, Nat.zero_add]
    simp [List.count_cons, List.countP_cons]
    rfl
  · intro labels
    rw [List.count_append, hdurations, Nat.zero_add]
    simp [List.count_cons, List.countP_cons]
    rfl
  · -- The labels of a request are those of an answered generate call exactly if it is one.
    rcases hown with ⟨hcall, source, rfl⟩ | ⟨hnone, rfl⟩
    · rcases labels_eq_generate_iff.2 hcall with hlabels | hlabels <;> cases source <;>
        simp [cards, answeredCalls, answerLabels, hlabels]
    · have hlabels := mt labels_eq_generate_iff.1 hnone
      rw [not_or] at hlabels
      simp [cards, answeredCalls, answerLabels, hlabels.1, hlabels.2]

/-- Every run agrees with what it counts. -/
theorem tally_countedBy (recorder : Recorder) (steps : List Step) :
    Tally (countedBy recorder steps) (sent recorder steps) := by
  induction steps generalizing recorder with
  | nil => exact .nil
  | cons step rest ih =>
    unfold countedBy
    rw [sent, List.flatMap_append]
    refine .append ?_ (ih (step.after recorder))
    cases step with
    | request fresh request =>
      show Tally ((exchange fresh recorder request).reply.counted ++ []) _
      rw [List.append_nil]
      exact tally_exchange fresh recorder request
    | malformed | upkeep | install => exact .nil

/-- At every point of a run with an installed meter, each series of requests and of durations counts
    the requests answered so far under its labels, the sources of words add up to the generate calls
    answered with a card, and whatever is no request leaves all counts alone. -/
theorem counters_agree_throughout (steps : List Step) (done : Nat) :
    let start := Recorder.absent.install
    let recorder := after start (steps.take done)
    (∀ method path status,
      let answers := (sent start (steps.take done)).countP fun (request, result) =>
        request.method.name = method ∧
          ((Route.ofPath? request.uri.path).map Route.path).getD "unmatched" = path ∧
          result.reply.response.status = status
      recorder.count (.requests ⟨method, path, status⟩) = answers ∧
        recorder.count (.durations ⟨method, path, status⟩) = answers) ∧
    recorder.count (.generations .marker) + recorder.count (.generations .quoted) +
        recorder.count (.generations .default) =
      recorder.count (.requests ⟨"POST", "/v1/generate", 200⟩) +
        recorder.count (.requests ⟨"POST", "/api/generate", 200⟩) ∧
    ∀ series fault,
      (Step.upkeep.after recorder).count series = recorder.count series ∧
        (Step.install.after recorder).count series = recorder.count series ∧
        ((Step.malformed fault).after recorder).count series = recorder.count series := by
  intro start recorder
  have hstart : start.meter.isSome := rfl
  -- The meter starts empty, so its counts are what the exchanges of the run counted.
  have hcount : ∀ series,
      recorder.count series = (countedBy start (steps.take done)).count series := by
    intro series
    have hafter := count_after hstart (steps.take done) series
    rw [show start.count series = 0 from rfl, Nat.zero_add] at hafter
    exact hafter
  have htally := tally_countedBy start (steps.take done)
  refine ⟨fun method path status => ?_, ?_, fun series fault => ?_⟩
  · intro answers
    have hanswers : answers = (sent start (steps.take done)).countP fun entry =>
        answerLabels entry = ⟨method, path, status⟩ := by
      refine List.countP_congr fun entry _ => ?_
      simp [answerLabels, labels, Route.label, Route.unmatchedLabel]
    rw [hcount, hcount, hanswers]
    exact ⟨htally.requests _, htally.durations _⟩
  · simp only [hcount]
    exact htally.generations
  · exact ⟨Recorder.count_fold recorder series, Recorder.count_install recorder series, rfl⟩

end CardServer.Service
