import CardServer.Proofs.RequestId.Propagation
import CardServer.Proofs.Service.Independence
import Mathlib.Algebra.Ring.Nat
import Mathlib.Data.List.Count

/-! # Two paths for one endpoint

Generate calls and the list of models can each be reached under two paths.  A client cannot tell which
of the two it uses: a request for the one is answered as it is for the other, whatever its method and
its body.  Only the counters tell them apart, since they are kept by path, and they agree again once
the two are added up.

Two runs of which the second takes the other path at some of its requests are followed side by side.
`EqualMerged` relates the recorders of the two at every point, and the requests for the counters are the
only ones that can see the difference: a `GET` in the counters, a `HEAD` in how long they are, since one
path is longer than the other.

* `dispatch_renamed`               the reply under the other path
* `indistinguishable_dispatch`     what of a reply can depend on the recorder
* `counted_renamed`                a renamed request counts the same under the other path
* `equalMerged_after`              recorders that agree once merged stay so
* `aliases_are_indistinguishable`  the two runs agree at every point
* `aliases_differ_in_length`       where the length of the paths shows
-/

namespace CardServer

open Http (Request Response Method)

/-- The other path to an endpoint that has two; all other paths stay as they are. -/
def otherPath (path : String) : String :=
  match path with
  | "/api/generate" => "/v1/generate"
  | "/v1/generate" => "/api/generate"
  | "/api/tags" => "/v1/list"
  | "/v1/list" => "/api/tags"
  | path => path

/-! ## Routes -/

/-- The other route to an endpoint that has two. -/
def Route.twin : Route → Route
  | .listV1 => .tags
  | .tags => .listV1
  | .generateV1 => .generate
  | .generate => .generateV1
  | route => route

namespace Route

@[simp] theorem twin_twin (route : Route) : route.twin.twin = route := by cases route <;> rfl

@[simp] theorem endpoint_twin (route : Route) : route.twin.endpoint = route.endpoint := by
  cases route <;> rfl

theorem path_twin (route : Route) : route.twin.path = otherPath route.path := by
  cases route <;> rfl

/-- A path without a route is no alias. -/
theorem otherPath_of_none {path : String} (h : ofPath? path = none) : otherPath path = path := by
  unfold otherPath
  -- The four paths that have another one all lead to routes.
  split <;> first | rfl | exact absurd h (by decide)

/-- The other path leads to the other route. -/
theorem ofPath?_otherPath (path : String) :
    ofPath? (otherPath path) = (ofPath? path).map twin := by
  cases hroute : ofPath? path with
  | some route =>
    rw [← ofPath?_eq_some_iff.1 hroute, ← path_twin]
    exact ofPath?_eq_some_iff.2 rfl
  | none =>
    rw [otherPath_of_none hroute, hroute]
    rfl

/-- A request for the other path is counted under the other path. -/
theorem label_otherPath (path : String) :
    label (ofPath? (otherPath path)) = otherPath (label (ofPath? path)) := by
  rw [ofPath?_otherPath]
  cases ofPath? path with
  | some route => exact path_twin route
  | none => rfl

end Route

/-- The other path of the other path is the path itself. -/
@[simp] theorem otherPath_otherPath (path : String) : otherPath (otherPath path) = path := by
  cases hroute : Route.ofPath? path with
  | some route =>
    rw [← Route.ofPath?_eq_some_iff.1 hroute, ← Route.path_twin, ← Route.path_twin,
      Route.twin_twin]
  | none => rw [Route.otherPath_of_none hroute, Route.otherPath_of_none hroute]

/-- The request for the other path, all else kept. -/
def Http.Request.renamed (request : Request) : Request :=
  { request with uri := { request.uri with path := otherPath request.uri.path } }

/-! ## Counters -/

/-- The series of the same requests under the other path; calls by source have no path. -/
def Series.twin : Series → Series
  | .requests labels => .requests { labels with path := otherPath labels.path }
  | .durations labels => .durations { labels with path := otherPath labels.path }
  | .generations source => .generations source

@[simp] theorem Series.twin_twin (series : Series) : series.twin.twin = series := by
  cases series <;> simp [twin]

theorem Series.twin_injective : Function.Injective Series.twin :=
  Function.LeftInverse.injective Series.twin_twin

/-- Under the other paths a list counts what it counted under the paths themselves. -/
theorem Series.count_map_twin (counted : List Series) (series : Series) :
    (counted.map Series.twin).count series = counted.count series.twin := by
  rw [← List.count_map_of_injective counted Series.twin Series.twin_injective, twin_twin]

namespace Recorder

/-- How often a series has been counted under either path. -/
def merged (recorder : Recorder) (series : Series) : Nat :=
  if series.twin = series then recorder.count series
  else recorder.count series + recorder.count series.twin

/-- Calls by source are counted together anyway. -/
theorem merged_generations (recorder : Recorder) (source : Source) :
    recorder.merged (.generations source) = recorder.count (.generations source) :=
  if_pos rfl

end Recorder

/-- Recorders that agree once the counts under the two paths of an endpoint are added up. -/
structure EqualMerged (recorder other : Recorder) : Prop where
  installed : recorder.meter.isSome = other.meter.isSome
  /-- A series without a twin is its own and adds twice on either side. -/
  sum : ∀ series, recorder.count series + recorder.count series.twin =
    other.count series + other.count series.twin

namespace EqualMerged

variable {recorder other : Recorder}

theorem refl (recorder : Recorder) : EqualMerged recorder recorder := ⟨rfl, fun _ => rfl⟩

theorem merged (h : EqualMerged recorder other) (series : Series) :
    recorder.merged series = other.merged series := by
  have hsum := h.sum series
  unfold Recorder.merged
  split
  · next hself =>
    rw [hself] at hsum
    omega
  · exact hsum

theorem fold (h : EqualMerged recorder other) : EqualMerged recorder.fold other.fold where
  installed := by simpa [Recorder.fold] using h.installed
  sum series := by simpa using h.sum series

theorem install (h : EqualMerged recorder other) :
    EqualMerged recorder.install other.install where
  installed := rfl
  sum series := by simpa using h.sum series

/-- Counting the same series, or the same under the other paths, keeps the sums equal. -/
theorem record (h : EqualMerged recorder other) {counted twins : List Series}
    (hcounted : twins = counted ∨ twins = counted.map Series.twin) :
    EqualMerged (recorder.record counted) (other.record twins) where
  installed := by simpa [Recorder.record] using h.installed
  sum series := by
    have hsum := h.sum series
    by_cases hmeter : recorder.meter.isSome
    · have hother : other.meter.isSome := h.installed ▸ hmeter
      simp only [Recorder.count_record hmeter, Recorder.count_record hother]
      rcases hcounted with rfl | rfl
      · omega
      · simp only [Series.count_map_twin, Series.twin_twin]
        omega
    · -- Without a meter both count nothing.
      have hother : ¬ other.meter.isSome := h.installed ▸ hmeter
      rw [Option.not_isSome_iff_eq_none] at hmeter hother
      simp [Recorder.record, Recorder.count, hmeter, hother]

end EqualMerged

namespace Service

/-! ## Replies -/

/-- The requests that are shown the counters. -/
def ShowsCounters (request : Request) : Prop :=
  request.method = .get ∧ request.uri.path = "/metrics"

/-- The requests that are told how long the counters are: a `HEAD` is so without being shown them. -/
def MeasuresCounters (request : Request) : Prop :=
  (request.method = .get ∨ request.method = .head) ∧ request.uri.path = "/metrics"

/-- What a client and the log can tell of two replies is the same, but for the counters in the body and
    their declared length, if those are asked for. -/
structure Indistinguishable (request : Request) (reply other : Reply) : Prop where
  status : reply.response.status = other.response.status
  headers : reply.response.headers = other.response.headers
  length : ¬ MeasuresCounters request → reply.response.length = other.response.length
  body : ¬ ShowsCounters request → reply.response.body = other.response.body
  events : reply.events = other.events

theorem Indistinguishable.response {request : Request} {reply other : Reply}
    (h : Indistinguishable request reply other) (hmeasured : ¬ MeasuresCounters request) :
    reply.response = other.response := by
  have hshown : ¬ ShowsCounters request := fun hshown => hmeasured ⟨.inl hshown.1, hshown.2⟩
  rcases reply.response, other.response, h.status, h.headers, h.length hmeasured, h.body hshown with
    ⟨⟨status, headers, length, body⟩, ⟨_, _, _, _⟩, rfl, rfl, rfl, rfl⟩
  rfl

variable {recorder other : Recorder}

/-- The reply under the other path is the same. -/
theorem dispatch_renamed (recorder : Recorder) (request : Request) :
    dispatch recorder request.renamed = dispatch recorder request := by
  simp only [dispatch, Request.renamed, Route.ofPath?_otherPath]
  cases Route.ofPath? request.uri.path with
  | none => rfl
  | some route => simp only [Option.map_some, Route.endpoint_twin]

/-- Of the recorder a reply shows something only in the body and its declared length, and there only if
    the counters are asked for. -/
theorem indistinguishable_dispatch (recorder other : Recorder) (request : Request) :
    Indistinguishable request (dispatch recorder request) (dispatch other request) ∧
      (dispatch recorder request).folds = (dispatch other request).folds := by
  by_cases hpath : request.uri.path = "/metrics"
  · have hroute : Route.ofPath? request.uri.path = some .metrics :=
      Route.ofPath?_eq_some_iff.2 hpath.symm
    simp only [dispatch, hroute]
    split
    · next hserved =>
      have hmethod : request.method = .get ∨ request.method = .head := by
        simpa [Route.endpoint, Endpoint.methods] using hserved
      have hmeasured : MeasuresCounters request := ⟨hmethod, hpath⟩
      split
      · exact ⟨⟨rfl, rfl, absurd hmeasured, fun _ => rfl, rfl⟩, rfl⟩
      · next hhead =>
        have hshown : ShowsCounters request := ⟨hmethod.resolve_right hhead, hpath⟩
        exact ⟨⟨rfl, rfl, absurd hmeasured, absurd hshown, rfl⟩, rfl⟩
    · exact ⟨⟨rfl, rfl, fun _ => rfl, fun _ => rfl, rfl⟩, rfl⟩
  · rw [dispatch_eq_of_path_ne hpath recorder other]
    exact ⟨⟨rfl, rfl, fun _ => rfl, fun _ => rfl, rfl⟩, rfl⟩

/-- The handlers count nothing that has a path. -/
theorem map_twin_counted_dispatch (recorder : Recorder) (request : Request) :
    (dispatch recorder request).counted.map Series.twin = (dispatch recorder request).counted := by
  rcases counted_dispatch_cases recorder request with ⟨-, -, source, hcounted⟩ | ⟨-, hcounted⟩ <;>
    rw [hcounted] <;> rfl

/-- A request for the other path is counted as the request itself under the other path. -/
theorem counted_renamed (fresh : Uuid) (recorder other : Recorder) (request : Request) :
    (exchange fresh other request.renamed).reply.counted =
      (exchange fresh recorder request).reply.counted.map Series.twin := by
  rw [counted_exchange_eq fresh recorder other request]
  simp only [reply_exchange, counted, dispatch_renamed, List.map_append,
    map_twin_counted_dispatch, labels, List.map_cons, List.map_nil, Series.twin,
    ← Route.label_otherPath]
  rfl

/-- A request with itself or with the request for the other path. -/
def IsRenaming (request twin : Request) : Prop := twin = request ∨ twin = request.renamed

/-- A request is answered as it is under the other path, whatever was counted before. -/
theorem indistinguishable_exchange {request twin : Request} (hrenaming : IsRenaming request twin)
    (fresh : Uuid) (recorder other : Recorder) :
    Indistinguishable request (exchange fresh recorder request).reply
        (exchange fresh other twin).reply ∧
      (exchange fresh recorder request).reply.folds = (exchange fresh other twin).reply.folds := by
  -- Neither the id nor the reply at the endpoint looks at which of the two paths it is.
  have hid : RequestId.choose fresh twin = RequestId.choose fresh request := by
    rcases hrenaming with rfl | rfl <;> rfl
  have hdispatch : dispatch other twin = dispatch other request := by
    rcases hrenaming with rfl | rfl
    · rfl
    · exact dispatch_renamed other request
  obtain ⟨hreply, hfolds⟩ := indistinguishable_dispatch recorder other request
  simp only [reply_exchange, hid, hdispatch, RequestId.stamp_choose]
  refine ⟨⟨hreply.status, ?_, hreply.length, hreply.body, hreply.events⟩, hfolds⟩
  simp only [Response.setHeader, hreply.headers]

/-! ## Runs -/

/-- The step with its request, if it is one, sent to the other path. -/
def Step.renamed : Step → Step
  | .request fresh sent => .request fresh sent.renamed
  | step => step

/-- The steps with some of their requests, chosen by their places, sent to the other paths. -/
def renamed (chosen : Nat → Bool) (steps : List Step) : List Step :=
  steps.mapIdx fun i step => if chosen i then step.renamed else step

theorem renamed_cons (chosen : Nat → Bool) (step : Step) (rest : List Step) :
    renamed chosen (step :: rest) =
      (if chosen 0 then step.renamed else step) :: renamed (fun i => chosen (i + 1)) rest :=
  List.mapIdx_cons

theorem getElem?_renamed (chosen : Nat → Bool) (steps : List Step) (i : Nat) :
    (renamed chosen steps)[i]? =
      steps[i]?.map fun step => if chosen i then step.renamed else step :=
  List.getElem?_mapIdx

theorem take_renamed (chosen : Nat → Bool) (steps : List Step) (done : Nat) :
    (renamed chosen steps).take done = renamed chosen (steps.take done) := by
  refine List.ext_getElem? fun i => ?_
  simp only [List.getElem?_take, getElem?_renamed]
  split <;> rfl

/-- A step and the same step with its request sent to the other path keep merged counters equal. -/
theorem equalMerged_step (h : EqualMerged recorder other) {step twin : Step}
    (hrenaming : twin = step ∨ twin = step.renamed) :
    EqualMerged (step.after recorder) (twin.after other) := by
  cases step with
  | request fresh request =>
    have htwin : ∃ request', twin = .request fresh request' ∧ IsRenaming request request' := by
      rcases hrenaming with rfl | rfl
      · exact ⟨request, rfl, .inl rfl⟩
      · exact ⟨request.renamed, rfl, .inr rfl⟩
    obtain ⟨request', rfl, hrequest⟩ := htwin
    -- Whether the waiting samples are folded first hangs on the endpoint alone.
    have hfolds := (indistinguishable_exchange hrequest fresh recorder other).2
    have hcounted : (exchange fresh other request').reply.counted =
          (exchange fresh recorder request).reply.counted ∨
        (exchange fresh other request').reply.counted =
          (exchange fresh recorder request).reply.counted.map Series.twin := by
      rcases hrequest with rfl | rfl
      · exact .inl (counted_exchange_eq fresh other recorder _)
      · exact .inr (counted_renamed fresh recorder other request)
    show EqualMerged (Exchange.recorder _ recorder) (Exchange.recorder _ other)
    unfold Exchange.recorder
    rw [← hfolds]
    split
    · exact h.fold.record hcounted
    · exact h.record hcounted
  | malformed fault => rcases hrenaming with rfl | rfl <;> exact h
  | upkeep => rcases hrenaming with rfl | rfl <;> exact h.fold
  | install => rcases hrenaming with rfl | rfl <;> exact h.install

/-- Runs that differ in which of the two paths some requests take keep merged counters equal. -/
theorem equalMerged_after (h : EqualMerged recorder other) (chosen : Nat → Bool)
    (steps : List Step) :
    EqualMerged (after recorder steps) (after other (renamed chosen steps)) := by
  induction steps generalizing recorder other chosen with
  | nil => exact h
  | cons step rest ih =>
    -- In the rest each place is one less, and so the choice of places is shifted.
    rw [renamed_cons]
    refine ih (equalMerged_step h ?_) _
    split
    · exact .inr rfl
    · exact .inl rfl

/-- Nobody but who asks for the counters can tell which of the two paths of an endpoint a request took.
    Take a run, send any of its requests to the other path and keep everything else, the fresh
    identifiers included: each request is answered and logged as before, unless it is a `GET` or a
    `HEAD` of the counters.  A `GET` is so up to the counters themselves and their length, and a `HEAD`
    up to their length alone.  After every step the counters agree once those of the two paths are added
    up, and those of the calls by source agree as they are. -/
theorem aliases_are_indistinguishable (recorder : Recorder) (steps : List Step)
    (chosen : Nat → Bool) :
    let twins := renamed chosen steps
    (∀ (i : Nat) (fresh : Uuid) (request : Request), steps[i]? = some (.request fresh request) →
      ∃ result other : Exchange,
        (run recorder steps)[i]?.map (·.1) = some (some result) ∧
        (run recorder twins)[i]?.map (·.1) = some (some other) ∧
        Indistinguishable request result.reply other.reply ∧
        (¬ MeasuresCounters request → result.reply.response = other.reply.response)) ∧
    ∀ done : Nat,
      let before := after recorder (steps.take done)
      let twinBefore := after recorder (twins.take done)
      (∀ series, before.merged series = twinBefore.merged series) ∧
        ∀ source, before.count (.generations source) = twinBefore.count (.generations source) := by
  intro twins
  have hmerged : ∀ done,
      EqualMerged (after recorder (steps.take done)) (after recorder (twins.take done)) := by
    intro done
    rw [take_renamed]
    exact equalMerged_after (.refl recorder) chosen _
  refine ⟨fun i fresh request hstep => ?_, fun done => ⟨(hmerged done).merged, fun source => ?_⟩⟩
  · -- The step at the same place of the other run is the request or the one for the other path.
    have htwin : ∃ twin, twins[i]? = some (.request fresh twin) ∧ IsRenaming request twin := by
      rw [getElem?_renamed, hstep]
      by_cases hchosen : chosen i
      · exact ⟨request.renamed, by simp [hchosen, Step.renamed], .inr rfl⟩
      · exact ⟨request, by simp [hchosen], .inl rfl⟩
    obtain ⟨twin, htwin, hrenaming⟩ := htwin
    obtain ⟨hsame, -⟩ := indistinguishable_exchange hrenaming fresh
      (after recorder (steps.take i)) (after recorder (twins.take i))
    refine ⟨_, _, ?_, ?_, hsame, fun hmeasured => hsame.response hmeasured⟩
    · rw [getElem?_run, hstep]
      rfl
    · rw [getElem?_run, htwin]
      rfl
  · simpa only [Recorder.merged_generations] using (hmerged done).merged (.generations source)

/-! ## The length of the paths -/

end Service

namespace Exposition

theorem utf8ByteSize_join (texts : List String) :
    (String.join texts).utf8ByteSize = (texts.map String.utf8ByteSize).sum := by
  induction texts with
  | nil => rfl
  | cons text rest ih =>
    rw [String.join_cons, String.utf8ByteSize_append, ih, List.map_cons, List.sum_cons]

/-- How long an exposition is does not hang on the order of its lines. -/
theorem utf8ByteSize_timed (exposition : Exposition) (timings : RequestLabels → String) :
    (exposition.timed timings).utf8ByteSize =
      ((Metric.all.filter fun metric => exposition.meter.counts.any (·.1.metric = metric)).map
        fun metric => (metric.declaration ++ "\n").utf8ByteSize).sum +
      (exposition.meter.counts.map fun entry =>
        (entry.1.text ++ " " ++ toString entry.2 ++ "\n").utf8ByteSize).sum +
      ((exposition.meter.counts.filterMap (·.1.sampled?)).map fun labels =>
        (timings labels).utf8ByteSize).sum := by
  have hsorted : exposition.meter.sorted.Perm exposition.meter.counts := List.mergeSort_perm _ _
  rw [timed, String.utf8ByteSize_append, text, utf8ByteSize_join, utf8ByteSize_join,
    List.map_append, List.map_append, List.sum_append, Meter.declarations, Meter.lines, sampled]
  congr 1
  · congr 1
    · refine (((List.mergeSort_perm _ _).map _).map _).sum_nat.trans ?_
      rw [List.map_map, List.map_map]
      rfl
    · rw [List.map_map, List.map_map]
      exact (hsorted.map _).sum_nat
  · rw [List.map_map]
    exact ((hsorted.filterMap _).map _).sum_nat

end Exposition

namespace Http.Uri

/-- A query of some length. -/
def filler (n : Nat) : List Char := List.replicate n 'a'

theorem utf8ByteSize_filler (n : Nat) : (String.ofList (filler n)).utf8ByteSize = n := by
  induction n with
  | zero => rfl
  | succ n ih =>
    have hsize : 'a'.utf8Size = 1 := rfl
    rw [filler, List.replicate_succ, String.ofList_cons, String.utf8ByteSize_append,
      String.utf8ByteSize_singleton, hsize, ← filler, ih, Nat.add_comm]

theorem readQuery_filler (n : Nat) : readQuery (filler n) = .ok (filler n) := by
  have hends : (filler n).takeWhile (· != '#') = filler n := by
    rw [filler, List.takeWhile_replicate, if_pos (by decide)]
  have hall : (filler n).all isQueryChar = true :=
    List.all_eq_true.2 fun c hc => by rw [List.eq_of_mem_replicate hc]; decide
  rw [readQuery, hends, if_pos hall]

theorem readPath_filler {path : List Char} (h : path.all isPathChar = true) (n : Nat) :
    readPath (path ++ '?' :: filler n) = .ok (path, some (filler n)) := by
  have hchars : ∀ c ∈ path, (c != '?' && c != '#') = true := by
    intro c hc
    have hchar := List.all_eq_true.1 h c hc
    simp only [isPathChar, isForbidden, Bool.and_eq_true, Bool.not_eq_true',
      Bool.or_eq_false_iff] at hchar
    rw [Bool.and_eq_true]
    exact ⟨hchar.1.2, by simpa using hchar.1.1.2⟩
  have hends : (path ++ '?' :: filler n).takeWhile (fun c => c != '?' && c != '#') = path := by
    rw [List.takeWhile_append_of_pos hchars, List.takeWhile_cons_of_neg (by decide),
      List.append_nil]
  simp only [readPath, hends, h, if_true, List.drop_left, readQuery_filler]

/-- A target is read unless its path and its query together are too long. -/
theorem ofText_filler {path : String} {rest : List Char} (hpath : path.toList = '/' :: rest)
    (hchars : path.toList.all isPathChar = true) (n : Nat) :
    ofText (path ++ "?" ++ String.ofList (filler n)) =
      if greatestLength < path.utf8ByteSize + 1 + n then
        .error .tooLong
      else
        .ok ⟨none, none, path, some (String.ofList (filler n))⟩ := by
  have hsize : (path ++ "?" ++ String.ofList (filler n)).utf8ByteSize = path.utf8ByteSize + 1 + n := by
    rw [String.utf8ByteSize_append, String.utf8ByteSize_append, utf8ByteSize_filler]
    rfl
  have htext : (path ++ "?" ++ String.ofList (filler n)).toList = '/' :: (rest ++ '?' :: filler n) := by
    simp [String.toList_append, hpath]
  have hread : readPath ('/' :: (rest ++ '?' :: filler n)) = .ok ('/' :: rest, some (filler n)) := by
    rw [← List.cons_append, ← hpath]
    exact readPath_filler hchars n
  rw [ofText, hsize, htext]
  simp only [hread, ofChars, ← hpath, String.ofList_toList, Option.map_some, Option.map_none]

end Http.Uri

namespace Service

/-- An empty generate call under some path. -/
def emptyCall (path : String) : Request := ⟨.post, ⟨none, none, path, none⟩, .http11, [], .empty⟩

/-- What is counted of an empty generate call. -/
def shownBehind (path : String) : Exposition :=
  ⟨[(.generations .default, 1), (.requests ⟨"POST", path, 200⟩, 1),
    (.durations ⟨"POST", path, 200⟩, 1)], []⟩

/-- Each of the three lines about a call is longer by one byte under the longer path, two of them in any
    case and the third as far as durations are told of. -/
theorem utf8ByteSize_shownBehind (timings : RequestLabels → String) :
    ((shownBehind "/v1/generate").timed timings).utf8ByteSize =
        343 + (timings ⟨"POST", "/v1/generate", 200⟩).utf8ByteSize ∧
      ((shownBehind "/api/generate").timed timings).utf8ByteSize =
        345 + (timings ⟨"POST", "/api/generate", 200⟩).utf8ByteSize := by
  rw [Exposition.utf8ByteSize_timed, Exposition.utf8ByteSize_timed]
  exact ⟨rfl, rfl⟩

/-- The paths of an endpoint are told apart by their length.  A `HEAD` of the counters declares how long
    these are, and behind a generate call that is more if the call took the longer path, whatever is told
    of durations, as long as it is no shorter for the longer path.  And a request whose target is as
    long as may be under the shorter path cannot be built under the longer one. -/
theorem aliases_differ_in_length :
    let head : Request := ⟨.head, ⟨none, none, "/metrics", none⟩, .http11, [], .empty⟩
    let steps : List Step :=
      [.request (.ofRandom 0) (emptyCall "/v1/generate"), .request (.ofRandom 1) head]
    let declared (steps : List Step) (timings : RequestLabels → String) : Option Nat :=
      ((run Recorder.absent.install steps)[1]?.bind (·.1)).map fun result =>
        result.reply.response.length.count timings
    let build (path : String) : Except Http.Request.Fault Request :=
      Http.Request.build "POST" (path ++ "?" ++ String.ofList (Http.Uri.filler 65521)) .http11 []
        .empty
    ¬ ShowsCounters head ∧
    (∀ timings : RequestLabels → String,
      (timings ⟨"POST", "/v1/generate", 200⟩).utf8ByteSize ≤
        (timings ⟨"POST", "/api/generate", 200⟩).utf8ByteSize →
      declared steps timings ≠ declared (renamed (fun _ => true) steps) timings) ∧
    (∃ request, build "/v1/generate" = .ok request) ∧
    build (otherPath "/v1/generate") = .error (.uri .tooLong) := by
  intro head steps declared build
  have hlength (path : String) (hpath : path = "/v1/generate" ∨ path = "/api/generate")
      (timings : RequestLabels → String) :
      declared [.request (.ofRandom 0) (emptyCall path), .request (.ofRandom 1) head] timings =
        some (((shownBehind path).timed timings).utf8ByteSize) := by
    rcases hpath with rfl | rfl <;> with_unfolding_all rfl
  have htarget (path : String) (hpath : path = "/v1/generate" ∨ path = "/api/generate") :
      Http.Uri.ofText (path ++ "?" ++ String.ofList (Http.Uri.filler 65521)) =
        if Http.Uri.greatestLength < path.utf8ByteSize + 1 + 65521 then
          .error .tooLong
        else
          .ok ⟨none, none, path, some (String.ofList (Http.Uri.filler 65521))⟩ := by
    rcases hpath with rfl | rfl <;> exact Http.Uri.ofText_filler rfl (by decide) 65521
  have hmethod : Http.Method.ofText? "POST" = some .post := by decide
  refine ⟨fun hshown => absurd hshown.1 (by decide), fun timings htimings => ?_, ?_, ?_⟩
  · have hsteps : renamed (fun _ => true) steps =
        [.request (.ofRandom 0) (emptyCall "/api/generate"), .request (.ofRandom 1) head] := rfl
    obtain ⟨hshort, hlong⟩ := utf8ByteSize_shownBehind timings
    rw [hsteps, hlength _ (.inl rfl), hlength _ (.inr rfl), hshort, hlong]
    intro hsame
    have hsame := Option.some.inj hsame
    omega
  · simp only [build, Http.Request.build, hmethod, htarget _ (.inl rfl)]
    rw [if_neg (by decide)]
    exact ⟨_, rfl⟩
  · have hother : otherPath "/v1/generate" = "/api/generate" := rfl
    simp only [build, hother, Http.Request.build, hmethod, htarget _ (.inr rfl)]
    rw [if_pos (by decide)]

end Service

end CardServer
