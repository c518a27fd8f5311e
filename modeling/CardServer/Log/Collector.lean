import CardServer.Http.Uri

/-! # Collectors

Spans can be sent to a collector, which is named by a text to which a path is appended.  The whole has to
be a request target of a stricter kind: everything up to a fragment is ASCII.
-/

namespace CardServer.Log.Collector

open Http (Uri)

/-- Where a collector takes spans. -/
def path : String := "/v1/traces"

/-- Whether a text is ASCII. -/
def isAscii (text : String) : Bool := text.toList.all fun c => c.toNat < 128

/-- Why a text does not name a collector, if it does not. -/
def fault? (endpoint : String) : Option Uri.Fault :=
  match Uri.ofText (endpoint ++ path) with
  | .ok uri => if isAscii uri.text then none else some .invalidChar
  | .error fault => some fault

/-- What a service says of a collector that it cannot use, if it cannot. -/
def complaint? (service endpoint : String) : Option String :=
  (fault? endpoint).map fun fault =>
    "Failed to initialize OTLP tracer for service '" ++ service ++ "' at endpoint '" ++ endpoint ++
      "': Exporter otlp encountered the following error(s): invalid URI " ++ fault.message

end CardServer.Log.Collector
