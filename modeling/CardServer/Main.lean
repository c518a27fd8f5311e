import CardServer.Http.Message
import CardServer.Launch
import Std.Async.Signal
import Std.Async.TCP
import Std.Async.Timer

/-! # The command

Launches the server in the working directory and the environment of the process, answers requests
until a signal to stop arrives, and prints complaints and log lines on the way.
-/

namespace CardServer.Main

open Std.Async (Async)
open Std.Async.TCP (Socket.Client Socket.Server)

/-! ## The surroundings of the process -/

/-- The variables of the process. -/
def environment : IO Settings.Environment := do
  let bytes ← IO.FS.readBinFile "/proc/self/environ"
  let entries := ((String.fromUTF8? bytes).getD "").splitOn "\x00"
  return ⟨entries.filterMap fun entry =>
    match entry.splitOn "=" with
    | name :: value :: rest => some (name, "=".intercalate (value :: rest))
    | _ => none⟩

/-- The contents of a file, if it can be read. -/
def contents? (path : List String) : IO (Option (List String × ByteArray)) := do
  try
    return some (path, ← IO.FS.readBinFile ("/" ++ "/".intercalate path))
  catch _ =>
    return none

/-- The working directory with the files that matter. -/
def directory : IO Settings.Directory := do
  let current := Settings.Directory.parts (← IO.currentDir).toString
  let places := Settings.Directory.upward current.reverse
  let envFiles := places.map fun place => place.reverse ++ [Settings.Directory.envFileName]
  let names := Settings.Directory.bareName :: Settings.FileFormat.fileNames.map (·.1)
  let files ← (envFiles ++ names.map fun name => current ++ [name]).mapM contents?
  return ⟨files.filterMap id, current⟩

/-- An identifier by chance. -/
def freshId : IO Uuid := do
  let bytes ← IO.getRandomBytes 16
  return Uuid.ofRandom (BitVec.ofNat 128 (bytes.foldl (fun n b => n * 256 + b.toNat) 0))

/-! ## Printing -/

/-- Prints log lines. -/
def printLines (lines : List Log.Line) : IO Unit := do
  for line in lines do
    IO.println line.text
  (← IO.getStdout).flush

/-- Prints what a launch has to say. -/
def report (launch : Launch) : IO Unit := do
  for complaint in launch.complaints do
    IO.eprintln complaint
  printLines launch.log

/-! ## Connections -/

/-- An address with a port as the network takes it. -/
def socketAddress (listener : Net.HostPort) : Std.Net.SocketAddress :=
  match listener.address with
  | .v4 a b c d => .v4 ⟨.ofParts a b c d, listener.port⟩
  | .v6 groups _ => .v6 ⟨⟨.ofFn fun i => groups.getD i 0⟩, listener.port⟩

/-- The error that the network reports. -/
def networkError (error : IO.Error) : IoError :=
  match error with
  | .permissionDenied .. => .permissionDenied
  | .resourceBusy .. => .addressInUse
  | .alreadyExists .. => .addressInUse
  | .unsupportedOperation .. => .addressNotAvailable
  | .invalidArgument .. => .addressNotAvailable
  | error => .message (toString error)

/-- Binds a listener. -/
def listen (socket : Socket.Server) (listener : Net.HostPort) :
    IO (Except IoError Net.HostPort) := do
  try
    socket.bind (socketAddress listener)
    socket.listen 1024
    return .ok { listener with port := (← socket.getSockName).port }
  catch error =>
    return .error (networkError error)

/-- Receives a request, as far as it arrives. -/
partial def receive (client : Socket.Client) (bytes : ByteArray) :
    Async (Http.Message.Arrival Http.Request) := do
  match Http.Message.request bytes.toList with
  | .partly =>
    match ← client.recv? 65536 with
    | some more => receive client (bytes ++ more)
    | none => return .partly
  | arrival => return arrival

/-- The bytes of a response; durations are counted here and not measured. -/
def message (response : Http.Response) : ByteArray :=
  (Http.Message.response Exposition.untimed response).toUTF8

/-- Answers the request of a connection and prints what is logged on the way. -/
def answer (server : Server) (recorder : IO.Ref Recorder) (client : Socket.Client) :
    Async Unit := do
  match ← receive client .empty with
  | .partly => return
  | .broken => client.send (message Http.Message.refusal)
  | .whole request =>
    let fresh ← freshId
    -- Connections share the recorder, so looking at it and counting are one step.
    let turn ← recorder.modifyGet fun before => server.turn before (.request fresh request)
    printLines turn.printed
    for response in turn.response do
      client.send (message response)
  client.shutdown

/-- Takes connections for ever. -/
partial def accept (server : Server) (recorder : IO.Ref Recorder) (socket : Socket.Server) :
    Async Unit := do
  let client ← socket.accept
  Std.Async.background do
    try answer server recorder client catch _ => pure ()
  accept server recorder socket

/-- Folds the samples of durations that wait into their summaries from time to time. -/
partial def upkeep (recorder : IO.Ref Recorder) : Async Unit := do
  recorder.modify Recorder.fold
  Std.Async.sleep (Std.Time.Millisecond.Offset.ofNat Service.upkeepInterval)
  upkeep recorder

/-- Waits for a signal to stop. -/
def stopSignal : Async Unit := do
  let terminate ← Std.Async.Signal.Waiter.mk .sigterm false
  let interrupt ← Std.Async.Signal.Waiter.mk .sigint false
  Std.Async.Selectable.one #[
    .case terminate.selector fun _ => pure (),
    .case interrupt.selector fun _ => pure ()]

/-- Serves until a signal to stop arrives. -/
def serve (server : Server) (socket : Socket.Server) : Async Unit := do
  let recorder ← IO.mkRef Server.recorder
  Std.Async.background (upkeep recorder)
  Std.Async.background (accept server recorder socket)
  stopSignal
  printLines (server.filter.select [Launch.outside Launch.shutdownEvent])

/-- The whole command; gives the exit code. -/
def run : IO UInt32 := do
  match Launch.prepare (← environment) (← directory) with
  | .error fault =>
    report (Launch.unconfigured fault.fault)
    return 1
  | .ok (settings, overriding) =>
    let socket ← Socket.Server.mk
    let outcome ← listen socket settings.listener
    let launch := Launch.withSettings settings overriding fun _ => outcome
    report launch
    match launch.server with
    | none => return 1
    | some server =>
      (serve server socket).block
      return 0

end CardServer.Main

/-- Runs the server until it is told to stop. -/
def main : IO UInt32 := CardServer.Main.run
