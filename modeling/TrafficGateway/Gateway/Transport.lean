import TrafficGateway.Balance.Selector
import TrafficGateway.Http.Response
import TrafficGateway.Partition.Context

/-!
# Transports

What a route does with the requests that it has claimed: it answers them itself, or sends them on to a
backend out of a fixed list or out of the instances of a service.

## Main definitions

* `BackendSource`: where backends come from.
* `Transport`: what a route does.
* `Transport.context`: what a request says about the backend it wants.
-/

namespace TrafficGateway

/-- Where backends come from: the selector in a place of the gateway's list, or the instances of a
service in the cache of an algorithm. -/
inductive BackendSource where
  | fixed (place : Nat)
  | discovered (kind : SelectorKind) (service : String)
  deriving DecidableEq, Repr

/-- Are the backends the instances of a service? -/
def BackendSource.isDiscovered : BackendSource → Bool
  | fixed _ => false
  | discovered .. => true

/-- What becomes of requests: a fixed answer, or a backend, which is chosen by the key in a header if
there is one. -/
inductive TransportTarget where
  | mock (spec : MockSpec)
  | forward (source : BackendSource) (hashHeader : Option String)
  deriving DecidableEq, Repr

/-- What a route does with its requests. -/
structure Transport where
  name : String
  pathRule : PathRule
  target : TransportTarget
  deriving DecidableEq, Repr

namespace Transport

/-- The type of target. -/
def targetType (t : Transport) : TargetType :=
  match t.target with
  | .mock _ => .mock
  | .forward (.fixed _) _ => .domain
  | .forward (.discovered ..) _ => .discovery

/-- The header whose value keeps requests together. -/
def hashHeader (t : Transport) : Option String :=
  match t.target with
  | .mock _ => none
  | .forward _ hashHeader => hashHeader

/-- What a request says about the backend it wants. A key that is asked for but missing is empty. -/
def context (t : Transport) (versionHeader : String) (h : Headers) : RouteContext :=
  .ofSignals (h.text? versionHeader) (t.hashHeader.map fun name => (h.text? name).getD "")

end Transport

end TrafficGateway
