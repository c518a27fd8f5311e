import CardServer.Prompt

/-! # Counters

The meter holds what has been counted since it was installed.  A *series* is a metric with its labels:
requests answered, durations sampled, and generate calls by the rule that found their word.  The
values of durations are not kept, only how many there are.  A sample of a duration waits at first and
is folded into the summary of its series later on.  What an exposition tells of the values is a
parameter of its text.

* `count_add`         counting once more raises its own series by one and no other
* `count_record`      a meter adds up how often each series was recorded
* `count_fold`        folding the samples that wait changes no count

The lemmas on recorders say the same of an installed meter.
-/

namespace CardServer

/-- The labels of a request: its method, the route that it matched and the status of its answer. -/
structure RequestLabels where
  method : String
  path : String
  status : Nat
  deriving DecidableEq, Repr

/-- The metrics of the server. -/
inductive Metric where
  | requests
  | durations
  | generations
  deriving DecidableEq, Repr

namespace Metric

/-- All metrics. -/
def all : List Metric := [.requests, .durations, .generations]

/-- The name of a metric. -/
def name : Metric → String
  | .requests => "http_requests_total"
  | .durations => "http_request_duration_seconds"
  | .generations => "ollama_mock_generate_requests_total"

/-- How the exposition declares a metric. -/
def kind : Metric → String
  | .requests => "counter"
  | .durations => "summary"
  | .generations => "counter"

/-- The line of the exposition that declares a metric. -/
def declaration (metric : Metric) : String := "# TYPE " ++ metric.name ++ " " ++ metric.kind

end Metric

/-- A metric with its labels. -/
inductive Series where
  | requests (labels : RequestLabels)
  | durations (labels : RequestLabels)
  | generations (source : Source)
  deriving DecidableEq, Repr

namespace Series

/-- The metric of a series. -/
def metric : Series → Metric
  | .requests _ => .requests
  | .durations _ => .durations
  | .generations _ => .generations

/-- The labels of the requests whose durations a series is of. -/
def sampled? : Series → Option RequestLabels
  | .durations labels => some labels
  | .requests _ | .generations _ => none

/-- One label with its value. -/
def labelText (name value : String) : String := name ++ "=\"" ++ value ++ "\""

/-- The labels of a request as they are written. -/
def labelsText (labels : RequestLabels) : String :=
  "\x7b" ++ labelText "method" labels.method ++ "," ++ labelText "path" labels.path ++ "," ++
    labelText "status" (toString labels.status) ++ "\x7d"

/-- The written form of a series; of durations it names the count of samples. -/
def text : Series → String
  | .requests labels => Metric.requests.name ++ labelsText labels
  | .durations labels => Metric.durations.name ++ "_count" ++ labelsText labels
  | .generations source =>
    Metric.generations.name ++ "\x7b" ++ labelText "source" source.label ++ "\x7d"

end Series

/-- What has been counted: the series that were counted at least once, each with its count, and the
    labels of the samples that wait to be folded into their summaries, the latest first. -/
structure Meter where
  counts : List (Series × Nat)
  waiting : List RequestLabels
  deriving DecidableEq, Repr

namespace Meter

/-- A meter that has counted nothing. -/
def empty : Meter := ⟨[], []⟩

/-- What a list of counts says about a series. -/
def countIn (series : Series) (counts : List (Series × Nat)) : Nat :=
  ((counts.find? (·.1 = series)).map (·.2)).getD 0

/-- How often a series has been counted, the samples that wait included. -/
def count (meter : Meter) (series : Series) : Nat :=
  countIn series meter.counts + (meter.waiting.map Series.durations).count series

/-- Adds one to a series in a list of counts. -/
def bump (series : Series) : List (Series × Nat) → List (Series × Nat)
  | [] => [(series, 1)]
  | (other, n) :: rest =>
    if other = series then (other, n + 1) :: rest else (other, n) :: bump series rest

/-- Counts a series once more; the sample of a duration has to wait. -/
def add (meter : Meter) : Series → Meter
  | .durations labels => { meter with waiting := labels :: meter.waiting }
  | series => { meter with counts := bump series meter.counts }

/-- Counts some series one after the other. -/
def record (meter : Meter) (series : List Series) : Meter := series.foldl add meter

/-- Folds the samples that wait into their summaries, the earliest first. -/
def fold (meter : Meter) : Meter where
  -- The latest sample stands first in the list, so it is folded last.
  counts := meter.waiting.foldr (fun labels counts => bump (.durations labels) counts) meter.counts
  waiting := []

@[simp] theorem count_empty (series : Series) : empty.count series = 0 := rfl

private theorem countIn_bump (series other : Series) (counts : List (Series × Nat)) :
    countIn other (bump series counts) =
      countIn other counts + if series = other then 1 else 0 := by
  unfold countIn
  induction counts with
  | nil => by_cases h : series = other <;> simp [bump, h]
  | cons entry rest ih =>
    obtain ⟨key, n⟩ := entry
    -- The entry is the one to be raised, or the one that is looked up, or neither.
    by_cases hk : key = series
    · subst hk
      by_cases h : key = other <;> simp [bump, h]
    · by_cases h : key = other
      · subst h
        simp [bump, hk, Ne.symm hk]
      · simp [bump, hk, h, ih]

/-- Counting once more raises its own series by one and no other. -/
theorem count_add (meter : Meter) (series other : Series) :
    (meter.add series).count other = meter.count other + if series = other then 1 else 0 := by
  cases series with
  | durations labels =>
    simp only [add, count, List.map_cons, List.count_cons, beq_iff_eq]
    omega
  | requests labels =>
    simp only [add, count, countIn_bump]
    omega
  | generations source =>
    simp only [add, count, countIn_bump]
    omega

/-- A meter adds up how often each series was recorded. -/
theorem count_record (meter : Meter) (series : List Series) (other : Series) :
    (meter.record series).count other = meter.count other + series.count other := by
  induction series generalizing meter with
  | nil => simp [record]
  | cons first rest ih =>
    have := ih (meter.add first)
    simp only [record, List.foldl_cons] at this ⊢
    rw [this, count_add, List.count_cons]
    simp only [beq_iff_eq]
    omega

/-- Folding the samples that wait changes no count. -/
@[simp] theorem count_fold (meter : Meter) (series : Series) :
    meter.fold.count series = meter.count series := by
  obtain ⟨counts, waiting⟩ := meter
  simp only [fold, count, List.map_nil, List.count_nil, Nat.add_zero]
  induction waiting with
  | nil => simp
  | cons labels waiting ih =>
    simp only [List.foldr_cons, countIn_bump, List.map_cons, List.count_cons, beq_iff_eq, ih]
    omega

/-- The order of two counts by the written form of their series. -/
def precedes (a b : Series × Nat) : Bool := a.1.text ≤ b.1.text

/-- The counts in the order of their written forms, without the samples that wait. -/
def sorted (meter : Meter) : List (Series × Nat) := meter.counts.mergeSort precedes

/-- The counts as lines: a series, a space and its count. -/
def lines (meter : Meter) : List String :=
  meter.sorted.map fun entry => entry.1.text ++ " " ++ toString entry.2

/-- The declarations of the metrics that have a count, in alphabetical order. -/
def declarations (meter : Meter) : List String :=
  ((Metric.all.filter fun metric => meter.counts.any (·.1.metric = metric)).map
    Metric.declaration).mergeSort fun a b => a ≤ b

end Meter

/-- What a scrape of the metrics is answered with: everything counted before it. -/
structure Exposition where
  meter : Meter
  deriving DecidableEq, Repr

namespace Exposition

/-- The text of an exposition: the declarations and then the counts, a line for each. -/
def text (exposition : Exposition) : String :=
  String.join ((exposition.meter.declarations ++ exposition.meter.lines).map (· ++ "\n"))

/-- The labels of the requests whose durations were sampled. -/
def sampled (exposition : Exposition) : List RequestLabels :=
  exposition.meter.sorted.filterMap (·.1.sampled?)

/-- The text of an exposition with what `timings` tells of the durations of requests with some labels:
    their quantiles and their sum. -/
def timed (timings : RequestLabels → String) (exposition : Exposition) : String :=
  exposition.text ++ String.join (exposition.sampled.map timings)

/-- Nothing is told of durations. -/
def untimed (_ : RequestLabels) : String := ""

end Exposition

/-- The place of the meter: nothing is counted before it is installed. -/
structure Recorder where
  meter : Option Meter
  deriving DecidableEq, Repr

namespace Recorder

/-- No meter is installed. -/
def absent : Recorder := ⟨none⟩

/-- Installs an empty meter unless there is one already. -/
def install (recorder : Recorder) : Recorder := ⟨some (recorder.meter.getD .empty)⟩

/-- Counts some series if a meter is installed. -/
def record (recorder : Recorder) (series : List Series) : Recorder :=
  ⟨recorder.meter.map (·.record series)⟩

/-- Folds the samples that wait if a meter is installed. -/
def fold (recorder : Recorder) : Recorder := ⟨recorder.meter.map Meter.fold⟩

/-- How often a series has been counted; nothing has been while no meter is installed. -/
def count (recorder : Recorder) (series : Series) : Nat :=
  (recorder.meter.map (·.count series)).getD 0

@[simp] theorem count_fold (recorder : Recorder) (series : Series) :
    recorder.fold.count series = recorder.count series := by
  cases h : recorder.meter <;> simp [fold, count, h]

@[simp] theorem count_install (recorder : Recorder) (series : Series) :
    recorder.install.count series = recorder.count series := by
  cases h : recorder.meter <;> simp [install, count, h]

theorem count_record {recorder : Recorder} (h : recorder.meter.isSome) (series : List Series)
    (other : Series) :
    (recorder.record series).count other = recorder.count other + series.count other := by
  obtain ⟨meter, hmeter⟩ := Option.isSome_iff_exists.1 h
  simp [record, count, hmeter, Meter.count_record]

/-- What a scrape is answered with while no meter is installed. -/
def absentNotice : String := "# Metrics recorder not initialized\n"

/-- The counts of the installed meter as lines, the samples that wait included. -/
def lines (recorder : Recorder) : List String := (recorder.meter.map (·.fold.lines)).getD []

end Recorder

end CardServer
