import CardServer.Launch

/-! # Where a program listens

A program has come to serve when its settings are loaded and its listener is bound, and it has ended
when either fails.  What the network has to say about a listener then decides where the program
listens: at the address and the port of its settings, or at a port of the network's choice if the
settings leave that to it.

* `server_start_eq_some`   what is behind a launch that has come to serve
* `listens_iff`            where a program listens in a network
* `complaint_of_end`       what a program says last that has ended at once
-/

namespace CardServer.Launch

open Log (Line Filter)
open Net (HostPort Network)

variable {environment : Settings.Environment} {directory : Settings.Directory}
  {bind : HostPort → Except IoError HostPort}

/-- What a program that comes to serve says on the way. -/
def startLines (service : String) (endpoint : HostPort) : List Line :=
  [meterEvent, listeningEvent service endpoint].map outside

/-- A launch that has come to serve has loaded its settings and bound its listener; its filter is made
    of the two texts, and its log is what that lets pass. -/
theorem server_start_eq_some {server : Server}
    (h : (start environment directory bind).server = some server) :
    ∃ settings, Settings.load environment directory = .ok settings ∧
      bind settings.listener = .ok server.endpoint ∧
      server.filter = (Filter.choose
        ((Settings.extended environment directory.envFile?).get? filterVariable)
        settings.logLevel).1 ∧
      (start environment directory bind).log =
        server.filter.select (startLines settings.serviceName server.endpoint) := by
  cases hload : Settings.load environment directory with
  | error fault => simp [start, prepare, hload, unconfigured] at h
  | ok settings =>
    simp only [start, prepare, hload, withSettings] at h ⊢
    cases hbind : bind settings.listener with
    | error error => simp [hbind] at h
    | ok endpoint =>
      simp only [hbind, Option.some.injEq] at h ⊢
      subst h
      exact ⟨settings, rfl, hbind, rfl, rfl⟩

/-- In a network a program listens exactly where its settings say, if they can be loaded, the host owns
    the address, and the port is free and open to every program; port zero is replaced by the one that
    the network hands out. -/
theorem listens_iff {network : Network} {endpoint : HostPort} :
    (start environment directory network.bind).server.map (·.endpoint) = some endpoint ↔
      ∃ settings, Settings.load environment directory = .ok settings ∧
        network.owns settings.listener.address = true ∧
          (settings.listener.port = 0 ∧
              endpoint = { settings.listener with port := network.free } ∨
            Network.leastOpenPort ≤ settings.listener.port ∧
              network.taken settings.listener.port = false ∧ endpoint = settings.listener) := by
  simp only [← Network.bind_eq_ok_iff]
  constructor
  · intro h
    obtain ⟨server, hserver, rfl⟩ := Option.map_eq_some_iff.1 h
    obtain ⟨settings, hload, hbind, -⟩ := server_start_eq_some hserver
    exact ⟨settings, hload, hbind⟩
  · rintro ⟨settings, hload, hbind⟩
    simp [start, prepare, hload, withSettings, hbind]

/-- A program that has not come to serve ends with exit code one, and the last that it says is why:
    its settings cannot be loaded, or its listener cannot be bound. -/
theorem complaint_of_end (h : (start environment directory bind).server = none) :
    (start environment directory bind).exitCode? = some 1 ∧
      ∃ error, (start environment directory bind).complaints.getLast? = some (lastComplaint error) ∧
        ((∃ fault, Settings.load environment directory = .error fault ∧
            error = .message ("Configuration error: " ++ fault.fault.message)) ∨
          ∃ settings cause, Settings.load environment directory = .ok settings ∧
            bind settings.listener = .error cause ∧ error = (Fault.ofIoError cause).toIoError) := by
  refine ⟨by rw [exitCode?, h]; rfl, ?_⟩
  cases hload : Settings.load environment directory with
  | error fault =>
    refine ⟨_, ?_, .inl ⟨fault, rfl, rfl⟩⟩
    simp [start, prepare, hload, unconfigured]
  | ok settings =>
    cases hbind : bind settings.listener with
    | error cause =>
      refine ⟨_, ?_, .inr ⟨settings, cause, rfl, hbind, rfl⟩⟩
      simp [start, prepare, hload, withSettings, hbind]
    | ok endpoint => simp [start, prepare, hload, withSettings, hbind] at h

end CardServer.Launch
