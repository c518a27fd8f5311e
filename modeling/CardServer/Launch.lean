import CardServer.Log.Collector
import CardServer.Log.Filter
import CardServer.Net.Network
import CardServer.Service
import CardServer.Settings.File
import CardServer.Text.Quoted

/-! # Launching the server

The program loads its settings, chooses a log filter, installs the meter and binds its listener.  It
ends at once if the settings cannot be loaded or the listener cannot be bound; otherwise it serves
requests until it is told to stop.  Complaints go to the error stream, everything else to the log.

The log here is what the program itself says.  The layer of `tower_http` that opens the span of a
request adds lines of its own, under its own target and with times in them: at the debug level that a
request is taken up and that it is done with, at the error level that it has failed.  They are left out.

* `Launch.start`   how far the program comes by itself
* `Server.turn`    what a listening server answers and prints on one step
* `Server.log`     what it logs until it is told to stop
-/

namespace CardServer

open Log (Event Line Filter)
open Net (HostPort)

/-- A server that is listening. -/
structure Server where
  filter : Filter
  endpoint : HostPort
  deriving DecidableEq

/-- How far the program has come: what it has complained about, what it has logged, and the server
    unless it ended at once. -/
structure Launch where
  complaints : List String
  log : List Line
  server : Option Server
  deriving DecidableEq

namespace Launch

/-- The target of the events of the life of the server. -/
def target : String := "ollama_mock::startup"

/-- The meter has been installed. -/
def meterEvent : Event :=
  ⟨.info, "ollama_mock::services::metrics", "Prometheus metrics initialized", none, []⟩

/-- The listener has been bound. -/
def listeningEvent (service : String) (endpoint : HostPort) : Event :=
  ⟨.info, target, "Mock inference API listening", none,
    [("service", service), ("address", endpoint.text)]⟩

/-- The listener could not be bound. -/
def unboundEvent (listener : HostPort) (error : IoError) : Event :=
  ⟨.error, target, "Failed to bind TCP listener to " ++ listener.text ++ ": " ++ error.text,
    none, []⟩

/-- The program ends because of a fault. -/
def faultEvent (fault : Fault) : Event :=
  ⟨.error, "ollama_mock", "Failed to start application: " ++ fault.message, none, []⟩

/-- The server has been told to stop. -/
def shutdownEvent : Event := ⟨.info, target, "Shutdown signal received", none, []⟩

/-- Something logged outside of all spans. -/
def outside (event : Event) : Line := ⟨event, none⟩

/-- The last complaint of a program that ends with an error. -/
def lastComplaint (error : IoError) : String :=
  "Error: Custom \x7b kind: Other, error: " ++ Text.quoted error.text ++ " \x7d"

/-- The launch whose settings cannot be loaded. -/
def unconfigured (fault : Fault) : Launch where
  complaints :=
    ["Failed to load configuration: " ++ fault.message,
      lastComplaint (.message ("Configuration error: " ++ fault.message))]
  log := []
  server := none

/-- The variable whose value goes over the log level of the settings. -/
def filterVariable : String := "RUST_LOG"

/-- Launches the program with some settings; `overriding` is the filter text that goes over their log
    level. -/
def withSettings (settings : Settings) (overriding : Option String)
    (bind : HostPort → Except IoError HostPort) : Launch :=
  let (filter, passedOver) := Filter.choose overriding settings.logLevel
  let unusable := settings.collector.bind (Log.Collector.complaint? settings.serviceName)
  let complaints := passedOver ++ unusable.toList
  match bind settings.listener with
  | .error error =>
    let fault := Fault.ofIoError error
    let events := [meterEvent, unboundEvent settings.listener error, faultEvent fault]
    { complaints := complaints ++ [lastComplaint fault.toIoError]
      log := filter.select (events.map outside)
      server := none }
  | .ok endpoint =>
    let events := [meterEvent, listeningEvent settings.serviceName endpoint]
    { complaints
      log := filter.select (events.map outside)
      server := some ⟨filter, endpoint⟩ }

/-- The settings of a working directory and an environment, and the filter text that goes over their
    log level. -/
def prepare (environment : Settings.Environment) (directory : Settings.Directory) :
    Except Settings.LoadFault (Settings × Option String) :=
  match Settings.load environment directory with
  | .error fault => .error fault
  | .ok settings =>
    .ok (settings, (Settings.extended environment directory.envFile?).get? filterVariable)

/-- Launches the program in a working directory and an environment. -/
def start (environment : Settings.Environment) (directory : Settings.Directory)
    (bind : HostPort → Except IoError HostPort) : Launch :=
  match prepare environment directory with
  | .error fault => unconfigured fault.fault
  | .ok (settings, overriding) => withSettings settings overriding bind

/-- The exit code of a program that has ended at once. -/
def exitCode? (launch : Launch) : Option Nat := if launch.server.isSome then none else some 1

end Launch

/-- The log lines of an exchange, all of them inside its span. -/
def Service.Exchange.lines (exchange : Service.Exchange) : List Line :=
  exchange.reply.events.map fun event => ⟨event, some exchange.span⟩

namespace Server

/-- The recorder that a server starts with. -/
def recorder : Recorder := Recorder.absent.install

/-- What a server does on one step: what it answers, if the step is a request, and what it prints. -/
structure Turn where
  response : Option Http.Response
  printed : List Line
  deriving DecidableEq

/-- One step of a server, with the recorder after it. -/
def turn (server : Server) (recorder : Recorder) (step : Service.Step) : Turn × Recorder :=
  match step.outcome recorder with
  | some exchange =>
    (⟨some exchange.reply.response, server.filter.select exchange.lines⟩,
      exchange.recorder recorder)
  | none => (⟨none, []⟩, step.after recorder)

/-- What a server does in the course of some steps. -/
def turns (server : Server) (recorder : Recorder) : List Service.Step → List Turn
  | [] => []
  | step :: rest =>
    let (turn, after) := server.turn recorder step
    turn :: server.turns after rest

/-- What a server answers to some steps, with the recorder after each. -/
def answers (steps : List Service.Step) : List (Option Service.Exchange × Recorder) :=
  Service.run recorder steps

/-- The log of a server before any filter: the lines of its exchanges, and then that it stops.  What the
    layer that opens the spans has to say about the requests is not among them. -/
def unfiltered (steps : List Service.Step) : List Line :=
  ((answers steps).flatMap fun result => (result.1.map (·.lines)).getD []) ++
    [Launch.outside Launch.shutdownEvent]

/-- What a server logs while it goes through some steps and is then told to stop. -/
def log (server : Server) (steps : List Service.Step) : List Line :=
  server.filter.select (unfiltered steps)

end Server

end CardServer
