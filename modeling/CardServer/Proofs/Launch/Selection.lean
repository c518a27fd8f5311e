import CardServer.Proofs.Launch.Listening
import CardServer.Proofs.Log.Plain
import CardServer.Proofs.RequestId.Propagation
import CardServer.Proofs.Settings.EnvFile

/-! # What the log filter decides

The filter is made when the program starts, out of two variables that nothing else looks at, and then
it only stands between what is said and what is printed.  Two processes whose environments differ in
these variables alone answer alike, and if the one filter lets pass what the other does and maybe more,
then its log has the lines of the other and maybe more, in the same order.  The lines that the layer of
`tower_http` adds about each request are in neither log.

* `Environment.SameButLog`   environments that differ in how much is to be logged
* `load_of_sameButLog`       what their settings have in common
* `response_turns`, `printed_turns`   what a server answers and what it prints
* `filter_only_selects`      two processes side by side
-/

namespace CardServer

open Log (Line Filter Span)
open Net (HostPort)

/-! ## Settings -/

namespace Settings

/-- The variables that say how much is to be logged. -/
def logVariables : List String := [Launch.filterVariable, "LOG_LEVEL"]

/-- Environments that differ at most in how much is to be logged. -/
def Environment.SameButLog (environment other : Environment) : Prop :=
  (environment.entries.filter (·.1 ∉ logVariables)) = other.entries.filter (·.1 ∉ logVariables)

namespace Environment.SameButLog

variable {environment other : Environment}

theorem get?_eq (h : environment.SameButLog other) {name : String} (hname : name ∉ logVariables) :
    environment.get? name = other.get? name := by
  -- The entries of another name are among those that are the same.
  have hfind : ∀ entries : List (String × String),
      entries.find? (·.1 = name) = (entries.filter (·.1 ∉ logVariables)).find? (·.1 = name) := by
    intro entries
    rw [List.find?_filter]
    congr 1
    funext entry
    by_cases hentry : entry.1 = name
    · simp [hentry, hname]
    · simp [hentry]
  rw [Environment.get?, hfind, h, ← hfind, Environment.get?]

theorem nonEmpty?_eq (h : environment.SameButLog other) {name : String}
    (hname : name ∉ logVariables) : environment.nonEmpty? name = other.nonEmpty? name := by
  rw [Environment.nonEmpty?, h.get?_eq hname, Environment.nonEmpty?]

/-- The log variables set nothing about where to listen. -/
theorem entriesOfVariables_eq (h : environment.SameButLog other) :
    entriesOfVariables environment = entriesOfVariables other := by
  have hkey : ∀ name ∈ logVariables, keyOfVariable? name = none := by decide
  have hall : ∀ entries : List (String × String),
      entriesOfVariables ⟨entries⟩ =
        entriesOfVariables ⟨entries.filter (·.1 ∉ logVariables)⟩ := by
    intro entries
    simp only [entriesOfVariables, List.filterMap_filter]
    refine List.filterMap_congr fun entry _ => ?_
    by_cases hentry : entry.1 ∈ logVariables
    · simp [hentry, hkey _ hentry]
    · simp [hentry]
  rw [hall environment.entries, hall other.entries, h]

end Environment.SameButLog

/-- Without a file of variables the environment stays as it is. -/
@[simp] theorem extended_none (environment : Environment) : extended environment none = environment :=
  rfl

/-- Settings loaded in environments that differ in how much is to be logged differ in nothing else. -/
theorem load_of_sameButLog {environment other : Environment} (h : environment.SameButLog other)
    {directory : Directory} (hfile : directory.envFile? = none) :
    load other directory = (load environment directory).map fun settings =>
      { settings with logLevel := (other.nonEmpty? "LOG_LEVEL").getD defaultLogLevel } := by
  simp only [load, hfile, extended_none]
  cases fileEntries directory.settingsFile? with
  | error fault => rfl
  | ok file =>
    have hservice : environment.nonEmpty? "SERVICE_NAME" = other.nonEmpty? "SERVICE_NAME" :=
      h.nonEmpty?_eq (by decide)
    have hcollector : environment.nonEmpty? "OTLP_ENDPOINT" = other.nonEmpty? "OTLP_ENDPOINT" :=
      h.nonEmpty?_eq (by decide)
    simp only [ofLayers, layered, ← h.entriesOfVariables_eq, ← hservice, ← hcollector, bind,
      Except.bind]
    cases listenerOf (putAll (entriesOfVariables environment) (putAll file (.table []))) <;> rfl

end Settings

/-! ## Servers -/

namespace Server

/-- The filter is without influence on what follows a step. -/
theorem turn_eq (server : Server) (recorder : Recorder) (step : Service.Step) :
    server.turn recorder step =
      (⟨(step.outcome recorder).map (·.reply.response),
        server.filter.select (((step.outcome recorder).map (·.lines)).getD [])⟩,
        step.after recorder) := by
  -- Only a request has an outcome, and the recorder after it is that after its exchange.
  cases step <;> rfl

/-- What a server answers does not depend on its filter. -/
theorem response_turns (server : Server) (recorder : Recorder) (steps : List Service.Step) :
    (server.turns recorder steps).map (·.response) =
      (Service.run recorder steps).map fun result => result.1.map (·.reply.response) := by
  induction steps generalizing recorder with
  | nil => rfl
  | cons step rest ih => simp only [turns, turn_eq, Service.run, List.map_cons, ih]

/-- What a server prints in the course of some steps is what its filter lets pass of all that is
    said. -/
theorem printed_turns (server : Server) (recorder : Recorder) (steps : List Service.Step) :
    (server.turns recorder steps).flatMap (·.printed) =
      server.filter.select ((Service.run recorder steps).flatMap fun result =>
        (result.1.map (·.lines)).getD []) := by
  induction steps generalizing recorder with
  | nil => rfl
  | cons step rest ih =>
    simp only [turns, turn_eq, Service.run, List.flatMap_cons, Filter.select_append, ih]

/-- What a server logs behind some lines is what its filter lets pass of all. -/
theorem select_append_log (server : Server) (lines : List Line) (steps : List Service.Step) :
    server.filter.select lines ++ server.log steps =
      server.filter.select (lines ++ unfiltered steps) :=
  (Filter.select_append ..).symm

/-- The log of a server is what it prints on its steps and, at the end, that it stops. -/
theorem log_eq_printed (server : Server) (steps : List Service.Step) :
    server.log steps = (server.turns recorder steps).flatMap (·.printed) ++
      server.filter.select [Launch.outside Launch.shutdownEvent] := by
  rw [log, unfiltered, Filter.select_append, answers, printed_turns]

/-- The id on a line that is printed on a step is the one that the answer carries. -/
theorem requestId_of_printed {server : Server} {recorder : Recorder} {steps : List Service.Step}
    {turn : Turn} (hturn : turn ∈ server.turns recorder steps) {line : Line}
    (hline : line ∈ turn.printed) {span : Span} (hspan : line.span = some span) :
    ∃ response, turn.response = some response ∧
      response.valuesOf RequestId.headerName = [span.requestId] := by
  induction steps generalizing recorder with
  | nil => nomatch hturn
  | cons step rest ih =>
    simp only [turns, turn_eq, List.mem_cons] at hturn
    rcases hturn with rfl | hturn
    · obtain ⟨said, hsaid, hspan⟩ := Filter.span_of_mem_select hline hspan
      cases step with
      | request fresh request =>
        -- All that is said of a request is said in its span.
        obtain ⟨event, -, rfl⟩ := List.mem_map.1 hsaid
        refine ⟨(Service.exchange fresh recorder request).reply.response, rfl, ?_⟩
        rw [← Option.some.inj hspan, RequestId.requestId_span_exchange,
          RequestId.valuesOf_response_exchange]
      | malformed | upkeep | install => nomatch hsaid
    · exact ih hturn

end Server

/-! ## Two processes -/

/-- The log filter only selects log lines.  Let two processes start in one directory without a file of
    variables and with one network, in environments that differ in the two log variables alone, and
    let their filters be plain.  The filter of a process is that of the one variable if it is set and
    a filter, and otherwise that of the other one.  Both processes answer to all steps alike, also
    where they show the counters.  If the one filter lets pass all that the other does, then the log of
    the other is a part of its log in the same order, but for spans that may be missing.  The log of a
    process has exactly those of all lines whose target and level pass.  What it prints after its start
    is what it prints on its steps and that it stops, and a span on a line of a step shows the id that
    the answer of that step carries. -/
theorem filter_only_selects {environment other : Settings.Environment}
    {directory : Settings.Directory} {bind : HostPort → Except IoError HostPort}
    {server twin : Server} (hfile : directory.envFile? = none)
    (hsame : environment.SameButLog other)
    (hstart : (Launch.start environment directory bind).server = some server)
    (hother : (Launch.start other directory bind).server = some twin)
    (hplain : server.filter.IsPlain) (htwin : twin.filter.IsPlain) (steps : List Service.Step) :
    let log := (Launch.start environment directory bind).log ++ server.log steps
    let otherLog := (Launch.start other directory bind).log ++ twin.log steps
    let turns := server.turns Server.recorder steps
    let service := (environment.nonEmpty? "SERVICE_NAME").getD "ollama-mock"
    let said := Launch.startLines service server.endpoint ++ Server.unfiltered steps
    server.filter = (Filter.choose (environment.get? "RUST_LOG")
        ((environment.nonEmpty? "LOG_LEVEL").getD "info")).1 ∧
      turns.map (·.response) = (twin.turns Server.recorder steps).map (·.response) ∧
      ((∀ target level, server.filter.passes target level → twin.filter.passes target level) →
        List.SublistForall₂ Line.IsTrimmed log otherLog) ∧
      log = (said.filter fun line =>
        server.filter.passes line.event.target line.event.level).map (fun line =>
          { line with
            span := if server.filter.passes Span.target Span.level then line.span else none }) ∧
      server.log steps = turns.flatMap (·.printed) ++
        server.filter.select [Launch.outside Launch.shutdownEvent] ∧
      ∀ turn ∈ turns, ∀ line ∈ turn.printed, ∀ span, line.span = some span →
        ∃ response, turn.response = some response ∧
          response.valuesOf "x-request-id" = [span.requestId] := by
  intro log otherLog turns service said
  obtain ⟨settings, hload, hbind, hfilter, hlog⟩ := Launch.server_start_eq_some hstart
  obtain ⟨otherSettings, hotherLoad, hotherBind, -, hotherLog⟩ :=
    Launch.server_start_eq_some hother
  obtain ⟨hservice, hlevel, -⟩ := Settings.texts_of_load hload
  rw [hfile, Settings.extended_none] at hservice hlevel hfilter
  -- The two processes have the same settings but for the log level, and so the same address.
  rw [Settings.load_of_sameButLog hsame hfile, hload] at hotherLoad
  obtain rfl := Except.ok.inj hotherLoad
  have hendpoint : twin.endpoint = server.endpoint := Except.ok.inj (hotherBind.symm.trans hbind)
  have hselect : log = server.filter.select said := by
    rw [hservice] at hlog
    simp only [log, hlog, Server.select_append_log, said, service]
  have hotherSelect : otherLog = twin.filter.select said := by
    rw [hservice, hendpoint] at hotherLog
    simp only [otherLog, hotherLog, Server.select_append_log, said, service]
  refine ⟨?_, ?_, fun hmore => ?_, ?_, Server.log_eq_printed server steps, ?_⟩
  · rw [hfilter, hlevel, Launch.filterVariable]
  · rw [Server.response_turns, Server.response_turns]
  · rw [hselect, hotherSelect]
    exact Filter.select_mono hplain htwin hmore said
  · rw [hselect]
    exact Filter.select_of_isPlain hplain said
  · intro turn hturn line hline span hspan
    exact Server.requestId_of_printed hturn hline hspan

/-- A process whose `RUST_LOG` names one target, and one whose `LOG_LEVEL` asks for everything.  A call
    with a body that is no Json is logged twice. -/
theorem logs_of_quiet_and_wordy_process :
    let environment : Settings.Environment :=
      ⟨[("APP__PORT", "8080"), ("RUST_LOG", "ollama_mock::handlers=info")]⟩
    let other : Settings.Environment := ⟨[("LOG_LEVEL", "trace"), ("APP__PORT", "8080")]⟩
    let directory : Settings.Directory := ⟨[], ["srv"]⟩
    let server : Server :=
      ⟨(Filter.choose (some "ollama_mock::handlers=info") "info").1, ⟨.unspecified, 8080⟩⟩
    let twin : Server := ⟨(Filter.choose none "trace").1, ⟨.unspecified, 8080⟩⟩
    let steps : List Service.Step :=
      [.request (.ofRandom 0) ⟨.post, ⟨none, none, "/v1/generate", none⟩, .http11, [], "-".toUTF8⟩,
        .request (.ofRandom 1) ⟨.get, ⟨none, none, "/metrics", none⟩, .http11, [], .empty⟩]
    let launch := Launch.start environment directory .ok
    let otherLaunch := Launch.start other directory .ok
    launch.server = some server ∧ otherLaunch.server = some twin ∧
      (server.turns Server.recorder steps).map (·.response) =
        (twin.turns Server.recorder steps).map (·.response) ∧
      List.SublistForall₂ Line.IsTrimmed (launch.log ++ server.log steps)
        (otherLaunch.log ++ twin.log steps) := by
  intro environment other directory server twin steps launch otherLaunch
  have hfile : directory.envFile? = none := by decide +kernel
  have hsame : environment.SameButLog other := by
    unfold Settings.Environment.SameButLog
    decide +kernel
  have hstart : launch.server = some server := by decide +kernel
  have hother : otherLaunch.server = some twin := by decide +kernel
  have hplain : server.filter.IsPlain :=
    Filter.isPlain_choose (by decide +kernel) (by decide +kernel)
  have htwin : twin.filter.IsPlain := Filter.isPlain_choose (by decide +kernel) (by decide +kernel)
  have hmore : ∀ target level, twin.filter.passes target level := by
    have hdirectives : twin.filter.directives = [{ target := "", verbosity := 5 }] := by
      decide +kernel
    intro target level
    refine (Filter.passes_iff htwin target level).2
      ⟨_, ⟨[], [], hdirectives, rfl, by simp, by simp⟩, ?_⟩
    cases level <;> decide
  obtain ⟨-, hresponses, hsublist, -⟩ :=
    filter_only_selects hfile hsame hstart hother hplain htwin steps
  exact ⟨hstart, hother, hresponses, hsublist fun target level _ => hmore target level⟩

end CardServer
