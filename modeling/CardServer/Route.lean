import CardServer.Http.Token

/-! # Routes

The seven paths of the server and what they lead to.  Paths are compared as they stand: case, trailing
slashes and percent escapes all count.  Two pairs of paths are aliases of one endpoint.

* `ofPath?_eq_some_iff`    a path leads to a route exactly if it is that route's path
* `label_ofPath?_eq_iff`   only the path of a route is counted under that path
-/

namespace CardServer

open Http (Method)

/-- What a route leads to. -/
inductive Endpoint where
  | models
  | generate
  | ping
  | health
  | metrics
  deriving DecidableEq, Repr

/-- The methods that an endpoint serves; whoever serves `GET` serves `HEAD` as well. -/
def Endpoint.methods : Endpoint → List Method
  | .generate => [.post]
  | _ => [.get, .head]

/-- A route. -/
inductive Route where
  | listV1
  | tags
  | generateV1
  | generate
  | ping
  | health
  | metrics
  deriving DecidableEq, Repr

namespace Route

/-- All routes. -/
def all : List Route := [.listV1, .tags, .generateV1, .generate, .ping, .health, .metrics]

theorem mem_all (route : Route) : route ∈ all := by cases route <;> decide

/-- The path of a route. -/
def path : Route → String
  | .listV1 => "/v1/list"
  | .tags => "/api/tags"
  | .generateV1 => "/v1/generate"
  | .generate => "/api/generate"
  | .ping => "/ping"
  | .health => "/health"
  | .metrics => "/metrics"

/-- What a route leads to. -/
def endpoint : Route → Endpoint
  | .listV1 | .tags => .models
  | .generateV1 | .generate => .generate
  | .ping => .ping
  | .health => .health
  | .metrics => .metrics

/-- The route of a path. -/
def ofPath? (path : String) : Option Route := all.find? (·.path = path)

/-- A path leads to a route exactly if it is that route's path. -/
theorem ofPath?_eq_some_iff {path : String} {route : Route} :
    ofPath? path = some route ↔ route.path = path := by
  constructor
  · intro h
    simpa using List.find?_some h
  · rintro rfl
    cases route <;> decide

/-- The label under which requests that match no route are counted. -/
def unmatchedLabel : String := "unmatched"

/-- The label under which requests for a path are counted. -/
def label (route : Option Route) : String := (route.map path).getD unmatchedLabel

/-- Only the path of a route is counted under that path. -/
theorem label_ofPath?_eq_iff {path : String} (route : Route) :
    label (ofPath? path) = route.path ↔ path = route.path := by
  constructor
  · intro h
    cases hfound : ofPath? path with
    | none =>
      rw [hfound] at h
      cases route <;> exact absurd h (by decide)
    | some found =>
      rw [hfound] at h
      rw [← ofPath?_eq_some_iff.1 hfound]
      exact h
  · rintro rfl
    rw [ofPath?_eq_some_iff.2 rfl]
    rfl

end Route

end CardServer
