import CardServer.Proofs.Generate.RoundTrip
import CardServer.Proofs.Service.Run

/-! # Card, log and counter agree

A generate call leaves three traces: the card that it is answered with, an event in the log and one
more call in a counter.  They are made at different places, and they tell the same: the word on the
card is the word in the log, and the rule that found it is named in the log and counted.  No other
request leaves an event, and none is counted as a call.

* `exchange_traces`            what one request logs and counts
* `countP_reportsCard`         one request reports as many cards as it counts
* `countP_reportsCard_run`     so does every run
* `card_event_counter_agree`   the three traces at every point of a run
-/

namespace CardServer

open Http (Request)

/-- Whether an event reports a card for a word that some rule found. -/
def Log.Event.reportsCard (source : Source) (event : Log.Event) : Bool :=
  event.level = .info ∧ event.message = "Generated word card" ∧
    ("source", source.label) ∈ event.fields

namespace GenerateCall

/-- At most one thing is noted about a body. -/
theorem length_noted_le (body : ByteArray) : (noted body).length ≤ 1 := by
  unfold noted
  cases (ofBody body).2 <;> simp

/-- What is noted about a body is for debugging and comes from the reader of bodies. -/
theorem level_of_mem_noted {body : ByteArray} {event : Log.Event} (h : event ∈ noted body) :
    event.level = .debug ∧ event.target = "ollama_mock::models::generation" := by
  unfold noted at h
  rw [Option.mem_toList, Option.map_eq_some_iff] at h
  obtain ⟨defect, -, rfl⟩ := h
  exact ⟨rfl, rfl⟩

end GenerateCall

namespace Service

/-! ## One request -/

/-- What a generate call logs: what was noted about its body, and then its card. -/
def callEvents (body : ByteArray) : List Log.Event :=
  GenerateCall.noted body ++ [cardEvent (GenerateCall.ofBody body).1 (wordOf body)]

/-- Outside its endpoint a request is not logged, and it is counted only among requests. -/
theorem exchange_traces (fresh : Uuid) (recorder : Recorder) (request : Request) :
    let result := exchange fresh recorder request
    (IsAnswered request ∧ result.reply.events = callEvents request.body ∧
        ∀ source, result.reply.counted.count (.generations source) =
          if source = (wordOf request.body).source then 1 else 0) ∨
      ¬ IsAnswered request ∧ result.reply.events = [] ∧
        ∀ source, result.reply.counted.count (.generations source) = 0 := by
  intro result
  let marked := RequestId.mark (RequestId.choose fresh request) request
  have hmarked : IsAnswered marked ↔ IsAnswered request := by
    simp [IsAnswered, IsGenerate, marked]
  have hbody : marked.body = request.body := RequestId.body_mark _ _
  have hevents : result.reply.events = (dispatch recorder marked).events := rfl
  have hcounted : ∀ source, result.reply.counted.count (.generations source) =
      (dispatch recorder marked).counted.count (.generations source) := by
    intro source
    show ((dispatch recorder marked).counted ++ [Series.requests _, Series.durations _]).count _ = _
    rw [List.count_append]
    simp
  rcases dispatch_traces recorder marked with ⟨hcall, -, hlogged, hown⟩ | ⟨hnone, -, hlogged, hown⟩
  · refine .inl ⟨hmarked.1 hcall, by rw [hevents, hlogged, hbody]; rfl, fun source => ?_⟩
    rw [hcounted, hown, hbody, List.count_singleton]
    by_cases hsource : source = (wordOf request.body).source
    · simp [hsource]
    · simp [hsource, Ne.symm hsource]
  · refine .inr ⟨mt hmarked.2 hnone, by rw [hevents, hlogged], fun source => ?_⟩
    rw [hcounted, hown, List.count_nil]

/-- The event of a card reports the card of its own rule. -/
theorem reportsCard_cardEvent (call : GenerateCall) (found : WordMatch) (source : Source) :
    (cardEvent call found).reportsCard source = decide (source = found.source) := by
  obtain ⟨word, rule⟩ := found
  cases source <;> cases rule <;> simp [Log.Event.reportsCard, cardEvent, Source.label]

/-- One request reports as many cards of a rule as it counts calls. -/
theorem countP_reportsCard (fresh : Uuid) (recorder : Recorder) (request : Request)
    (source : Source) :
    let result := exchange fresh recorder request
    result.reply.events.countP (·.reportsCard source) =
      result.reply.counted.count (.generations source) := by
  intro result
  rcases exchange_traces fresh recorder request with ⟨-, hevents, hcounted⟩ |
    ⟨-, hevents, hcounted⟩
  · -- What was noted about the body is no card.
    have hnoted : (GenerateCall.noted request.body).countP (·.reportsCard source) = 0 := by
      rw [List.countP_eq_zero]
      intro event hevent
      have hlevel := (GenerateCall.level_of_mem_noted hevent).1
      simp [Log.Event.reportsCard, hlevel]
    rw [hevents, hcounted, callEvents, List.countP_append, hnoted, List.countP_singleton,
      reportsCard_cardEvent]
    simp
  · rw [hevents, hcounted, List.countP_nil]

/-! ## Runs -/

/-- The events of a run, in order. -/
def eventsOf (results : List (Option Exchange × Recorder)) : List Log.Event :=
  (results.filterMap (·.1)).flatMap (·.reply.events)

/-- A run reports as many cards of a rule as it counts calls. -/
theorem countP_reportsCard_run (recorder : Recorder) (steps : List Step) (source : Source) :
    (eventsOf (run recorder steps)).countP (·.reportsCard source) =
      (countedBy recorder steps).count (.generations source) := by
  unfold eventsOf countedBy
  rw [← map_sent]
  induction steps generalizing recorder with
  | nil => rfl
  | cons step rest ih =>
    have hrest := ih (step.after recorder)
    rw [sent, List.map_append, List.flatMap_append, List.countP_append, hrest,
      List.flatMap_append, List.count_append]
    congr 1
    cases step with
    | request fresh request =>
      have hrequest := countP_reportsCard fresh recorder request source
      simpa [Step.sent?] using hrequest
    | malformed | upkeep | install => rfl

/-- The card of a word has the word as its member of that name. -/
theorem isLast_word_toJson (word : String) :
    ∃ members, (Card.ofWord word).toJson = .obj members ∧ Json.IsLast "word" (.str word) members := by
  refine ⟨_, Card.toJson_ofWord word, [], _, rfl, fun member hmember => ?_⟩
  simp only [List.mem_cons, List.not_mem_nil, or_false] at hmember
  rcases hmember with rfl | rfl | rfl <;> simp

/-- At every point of a run a generate call that is answered leaves three traces that agree: its one
    event of this kind has the word that is read back from the card, and names the rule whose counter
    alone grows, by one.  Any other request leaves no event and no generate counter changed.  In the
    end each counter is the number of events that name its rule. -/
theorem card_event_counter_agree (steps : List Step) :
    let start := Recorder.absent.install
    (∀ (i : Nat) (fresh : Uuid) (request : Request), steps[i]? = some (.request fresh request) →
      let before := after start (steps.take i)
      let recorder := after start (steps.take (i + 1))
      let answered := request.method = .post ∧
        (request.uri.path = "/v1/generate" ∨ request.uri.path = "/api/generate") ∧
        request.body.size ≤ 2097152
      ∃ result, (run start steps)[i]? = some (some result, recorder) ∧
        (answered →
          let call := (GenerateCall.ofBody request.body).1
          let found := WordMatch.ofPrompt call.prompt
          ∃ noted content members,
            result.reply.events = noted ++ [⟨.info, "ollama_mock::handlers::generate",
              "Generated word card", none, [("model", call.model.getD "-"), ("word", found.word),
                ("source", found.source.label)]⟩] ∧
            noted.length ≤ 1 ∧
            (∀ event ∈ noted,
              event.level = .debug ∧ event.target = "ollama_mock::models::generation") ∧
            result.reply.response.body = .text content ∧
            Json.read content = .ok (.obj members) ∧
            Json.IsLast "word" (.str found.word) members ∧
            ∀ source, recorder.count (.generations source) =
              before.count (.generations source) + if source = found.source then 1 else 0) ∧
        (¬ answered → result.reply.events = [] ∧
          ∀ source,
            recorder.count (.generations source) = before.count (.generations source))) ∧
    ∀ source, (eventsOf (run start steps)).countP (·.reportsCard source) =
      (after start steps).count (.generations source) := by
  intro start
  have hstart : start.meter.isSome := rfl
  refine ⟨?_, fun source => ?_⟩
  · intro i fresh request hstep before recorder answered
    let result := exchange fresh before request
    have hanswered : IsAnswered request ↔ answered := and_assoc
    have hgrowth : ∀ source, recorder.count (.generations source) =
        before.count (.generations source) +
          result.reply.counted.count (.generations source) := by
      intro source
      have hbefore := isSome_after hstart (steps.take i)
      have hcount := count_step hbefore (.request fresh request) (.generations source)
      rw [← after_take_succ start hstep] at hcount
      simpa [Step.sent?] using hcount
    refine ⟨result, by rw [getElem?_run, hstep]; rfl, fun hcall => ?_, fun hnone => ?_⟩
    · intro call found
      have hshort := hanswered.2 hcall
      obtain ⟨members, hmembers, hlast⟩ := isLast_word_toJson found.word
      obtain ⟨-, -, hcontent⟩ := exchange_of_isGenerate fresh before hshort.1 hshort.2
      have hread := Json.read_of_isText (Card.isText_wire (Card.ofWord found.word))
      rw [hmembers] at hread
      rcases exchange_traces fresh before request with ⟨-, hevents, hcounted⟩ | ⟨hnone, -⟩
      · refine ⟨GenerateCall.noted request.body, (Card.ofWord found.word).wire, members, hevents,
          GenerateCall.length_noted_le _, fun event => GenerateCall.level_of_mem_noted, hcontent,
          hread, hlast, fun source => ?_⟩
        rw [hgrowth, hcounted]
        rfl
      · exact absurd hshort hnone
    · rcases exchange_traces fresh before request with ⟨hcall, -⟩ | ⟨-, hevents, hcounted⟩
      · exact absurd (hanswered.1 hcall) hnone
      · refine ⟨hevents, fun source => ?_⟩
        rw [hgrowth, hcounted, Nat.add_zero]
  · -- The meter starts empty, so in the end it shows what the run has counted.
    rw [countP_reportsCard_run, count_after hstart]
    exact (Nat.zero_add _).symm

end Service

end CardServer
