import CardServer.Service

/-! # Runs

A run takes the server through some steps, one after the other.  `Service.run` lists what comes of
each step; here the run is seen from its end: the recorder that it leaves behind, and the requests
that were sent in its course, each with what came of it.

* `getElem?_run`   a run as a list is made of its steps, each taken after those before it
* `map_sent`       the exchanges of a run are those of the requests that were sent
* `count_step`     a step counts what its exchange counts
* `count_after`    the counters add up what the exchanges of a run count
-/

namespace CardServer.Service

open Http (Request)

/-- The recorder after some steps. -/
def after (recorder : Recorder) (steps : List Step) : Recorder := steps.foldl Step.after recorder

/-- The request of a step with what comes of it, if the step is a request. -/
def Step.sent? (recorder : Recorder) : Step → Option (Request × Exchange)
  | .request fresh sent => some (sent, exchange fresh recorder sent)
  | _ => none

/-- The requests that are sent in the course of some steps, each with what comes of it. -/
def sent (recorder : Recorder) : List Step → List (Request × Exchange)
  | [] => []
  | step :: rest => (step.sent? recorder).toList ++ sent (step.after recorder) rest

/-- What the exchanges of some steps count, in order. -/
def countedBy (recorder : Recorder) (steps : List Step) : List Series :=
  (sent recorder steps).flatMap (·.2.reply.counted)

/-- A run as a list is made of its steps, each taken after those before it. -/
theorem getElem?_run (recorder : Recorder) (steps : List Step) (i : Nat) :
    (run recorder steps)[i]? = steps[i]?.map fun step =>
      (step.outcome (after recorder (steps.take i)), after recorder (steps.take (i + 1))) := by
  induction steps generalizing recorder i with
  | nil => rfl
  | cons step rest ih =>
    cases i with
    | zero => rfl
    | succ i =>
      show (run (step.after recorder) rest)[i]? = _
      rw [ih]
      rfl

/-- The recorder after a step comes from the one before it. -/
theorem after_take_succ (recorder : Recorder) {steps : List Step} {i : Nat} {step : Step}
    (h : steps[i]? = some step) :
    after recorder (steps.take (i + 1)) = step.after (after recorder (steps.take i)) := by
  rw [List.take_add_one, h]
  simp only [after, Option.toList_some, List.foldl_append, List.foldl_cons, List.foldl_nil]

/-- The exchanges of a run are those of the requests that were sent. -/
theorem map_sent (recorder : Recorder) (steps : List Step) :
    (sent recorder steps).map (·.2) = (run recorder steps).filterMap (·.1) := by
  induction steps generalizing recorder with
  | nil => rfl
  | cons step rest ih =>
    have hrest := ih (step.after recorder)
    cases step with
    | request fresh request =>
      show exchange fresh recorder request :: (sent _ rest).map (·.2) = _
      rw [hrest]
      rfl
    | malformed | upkeep | install => exact hrest

/-! ## Counters -/

variable {recorder : Recorder}

/-- A meter that is installed stays installed. -/
theorem isSome_after_step (h : recorder.meter.isSome) (step : Step) :
    (step.after recorder).meter.isSome := by
  cases step with
  | request fresh request =>
    show (Exchange.recorder _ recorder).meter.isSome
    unfold Exchange.recorder
    split <;> simpa [Recorder.record, Recorder.fold] using h
  | malformed fault => exact h
  | upkeep => simpa [Step.after, Recorder.fold] using h
  | install => rfl

/-- A meter that is installed stays installed throughout a run. -/
theorem isSome_after (h : recorder.meter.isSome) (steps : List Step) :
    (after recorder steps).meter.isSome := by
  induction steps generalizing recorder with
  | nil => exact h
  | cons step rest ih => exact ih (isSome_after_step h step)

/-- A step counts what its exchange counts, and a step that is no request counts nothing. -/
theorem count_step (h : recorder.meter.isSome) (step : Step) (series : Series) :
    (step.after recorder).count series =
      recorder.count series +
        ((step.sent? recorder).toList.flatMap (·.2.reply.counted)).count series := by
  cases step with
  | request fresh request =>
    -- A scrape folds the samples that wait before it is counted itself.
    have hfold : recorder.fold.meter.isSome := by simpa [Recorder.fold] using h
    simp only [Step.after, Exchange.recorder, Step.sent?, Option.toList_some, List.flatMap_cons,
      List.flatMap_nil, List.append_nil]
    split
    · rw [Recorder.count_record hfold, Recorder.count_fold]
    · rw [Recorder.count_record h]
  | malformed fault => rfl
  | upkeep => exact Recorder.count_fold recorder series
  | install => exact Recorder.count_install recorder series

/-- The counters add up what the exchanges of a run count. -/
theorem count_after (h : recorder.meter.isSome) (steps : List Step) (series : Series) :
    (after recorder steps).count series =
      recorder.count series + (countedBy recorder steps).count series := by
  induction steps generalizing recorder with
  | nil => rfl
  | cons step rest ih =>
    -- The rest of the run starts from the recorder that the first step leaves behind.
    have hstep := count_step h step series
    have hrest := ih (isSome_after_step h step)
    show (after (step.after recorder) rest).count series = _
    rw [hrest, hstep]
    simp only [countedBy, sent, List.flatMap_append, List.count_append]
    omega

end CardServer.Service
