import TrafficGateway.Instance

/-!
# Routing signals of a request

What a request says about the backend it wants: a version, and a key that keeps its requests
together.

## Main definitions

* `RouteContext`: the signals.
* `RouteContext.ofSignals`: the signals as they were read from a request.
* `RouteContext.pinnedToDefault`: the same request without a wish for a version.
-/

namespace TrafficGateway

/-- The version that a request asks for and its hash key. -/
structure RouteContext where
  version : Option String := none
  hashKey : Option String := none
  deriving DecidableEq, Repr, Inhabited

namespace RouteContext

/-- The signals of a request; an empty version is none. -/
def ofSignals (version hashKey : Option String) : RouteContext :=
  { version := version.filter fun v => !v.isEmpty, hashKey }

/-- The same context pinned to the default partition. -/
def pinnedToDefault (c : RouteContext) : RouteContext :=
  { c with version := some defaultVersion }

end RouteContext

end TrafficGateway
