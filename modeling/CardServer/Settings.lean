import CardServer.Net.Address

/-! # Settings of the server

Where the server listens, what it calls itself, how much it logs and where it sends its spans.
-/

namespace CardServer

/-- The settings of the server. -/
structure Settings where
  listener : Net.HostPort
  serviceName : String
  logLevel : String
  /-- Where spans are exported to, if anywhere. -/
  collector : Option String
  deriving DecidableEq

namespace Settings

/-- The host to listen on by default: all addresses. -/
def defaultHost : Net.Address := .unspecified

/-- The port to listen on by default. -/
def defaultPort : UInt16 := 11434

/-- Where to listen by default. -/
def defaultListener : Net.HostPort := ⟨defaultHost, defaultPort⟩

/-- The name of the service by default. -/
def defaultServiceName : String := "ollama-mock"

/-- The log level by default. -/
def defaultLogLevel : String := "info"

/-- The settings when nothing is set. -/
def default : Settings := ⟨defaultListener, defaultServiceName, defaultLogLevel, none⟩

/-- Settings for trying the server out: a free port of this host and a wordy log. -/
def trial : Settings := ⟨⟨.loopback, 0⟩, defaultServiceName, "debug", none⟩

end Settings

end CardServer
