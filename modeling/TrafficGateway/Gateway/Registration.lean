import TrafficGateway.Discovery.System
import TrafficGateway.Forward.Endpoint
import TrafficGateway.Forward.Retry
import TrafficGateway.Gateway.Transport
import TrafficGateway.Route.Table

/-!
# Gateways and their routes

A gateway is filled with routes one by one; a route that cannot be served is refused. Routes to
services with the same algorithm share a cache, so that a service is fetched once for all of them.

## Main definitions

* `GatewayOptions`: what is common to all routes.
* `Gateway`: the routes and what serves them.
* `Gateway.connect`: the target of a route.
* `Gateway.register`, `Gateway.registerAll`: new routes.
* `Gateway.services`, `Gateway.follow`: the services that routes name.
-/

namespace TrafficGateway

/-- What is common to all routes: the header that asks for a version, the version and the place of
this process, the policy of exchanges, how long tables of services are kept, and how long a stream
waits for the head of its response. -/
structure GatewayOptions where
  versionHeader : String := "x-version"
  localVersion : String := ""
  locality : Option Locality := none
  traffic : TrafficPolicy := {}
  cacheTtl : Nat := 10000
  streamHeaderTimeout : Nat := 30000
  deriving Repr, Inhabited

/-- The routes with their matchers, the selectors of fixed backends, the services that routes name
with the algorithms of their caches, and how many routes were accepted. -/
structure Gateway where
  options : GatewayOptions := {}
  factory : SelectorFactory := {}
  matchers : Matchers := {}
  table : RouteTable Transport
  selectors : List (Selector Endpoint) := []
  followed : List (SelectorKind × String) := []
  discovery : Discovery := {}
  registered : Nat := 0

/-- The match of a validated route, with its expression compiled. -/
inductive CompiledMatch where
  | full
  | leading
  | condition (condition : Condition)

namespace Gateway

/-! ### Building a route -/

/-- Compiles the match of a route. -/
def compileMatch (m : Matchers) : RouteMatcher → Except RouteError CompiledMatch × Matchers
  | .full => (.ok .full, m)
  | .leading => (.ok .leading, m)
  | .expression expr =>
    let (condition, m) := m.compile expr
    (condition.map .condition, m)

/-- The nodes of fixed addresses, up to the first that cannot be read. -/
def nodesOfTargets : List TargetConfig → Except ForwardError (List (Node Endpoint))
  | [] => .ok []
  | t :: ts => do
    let endpoint ← Endpoint.ofTarget t.target
    let nodes ← nodesOfTargets ts
    return ⟨t.target, endpoint, t.weight.toNat⟩ :: nodes

/-- The cache of an algorithm, as it is when nothing has been loaded. -/
def freshCache (g : Gateway) (kind : SelectorKind) : TableCache :=
  { factory := g.factory
    options := { kind, localVersion := g.options.localVersion, locality := g.options.locality }
    ttl := g.options.cacheTtl }

/-- Notes that a route names a service. -/
def track (g : Gateway) (kind : SelectorKind) (service : String) : Gateway :=
  { g with
    followed :=
      if g.followed.contains (kind, service) then g.followed else g.followed ++ [(kind, service)]
    discovery := g.discovery.openCache kind (g.freshCache kind) }

/-- The target of a route, and the gateway with what serves it. -/
def connect (g : Gateway) : RouteTarget → Except ForwardError (TransportTarget × Gateway)
  | .mock spec => .ok (.mock spec, g)
  | .domain targets policy hashHeader => do
    let nodes ← nodesOfTargets targets
    match g.factory.build (g.factory.kindFor policy) nodes with
    | .error e => throw (.backend e)
    | .ok selector =>
      return (.forward (.fixed g.selectors.length) hashHeader,
        { g with selectors := g.selectors ++ [selector] })
  | .discovery service policy hashHeader =>
    let kind := g.factory.kindFor policy
    .ok (.forward (.discovered kind service) hashHeader, g.track kind service)

/-- Puts a transport into the table. -/
def place (t : RouteTable Transport) (path : String) (priority : Int32) (transport : Transport) :
    CompiledMatch → Except RouteError (RouteTable Transport)
  | .full => t.insertExact path transport
  | .leading => t.insertLeading path transport
  | .condition c => .ok (t.insertCondition c priority transport)

/-- Adds a route, or says why it is refused. A service that it names is tracked as soon as its target
is connected. -/
def register (g : Gateway) (r : RouteConfig) : Except ForwardError Unit × Gateway :=
  match r.validate with
  | .error e => (.error (.route e), g)
  | .ok spec =>
    let (compiled, matchers) := compileMatch g.matchers spec.matcher
    let g := { g with matchers }
    match compiled with
    | .error e => (.error (.route e), g)
    | .ok compiled =>
      match g.connect spec.target with
      | .error e => (.error e, g)
      | .ok (target, connected) =>
        let transport : Transport := { name := r.name, pathRule := spec.pathRule, target }
        match place g.table spec.path spec.priority transport compiled with
        | .error e =>
          (.error (.route e),
            { g with followed := connected.followed, discovery := connected.discovery })
        | .ok table => (.ok (), { connected with table, registered := g.registered + 1 })

/-- Adds routes one after the other: what became of each. -/
def registerAll : List RouteConfig → Gateway → List (Except ForwardError Unit) × Gateway
  | [], g => ([], g)
  | r :: rs, g =>
    let (outcome, g) := g.register r
    let (outcomes, g) := registerAll rs g
    (outcome :: outcomes, g)

/-! ### Services -/

/-- The services that routes name, in order. -/
def services (g : Gateway) : List String :=
  ((g.followed.map (·.2)).mergeSort fun a b => decide (a ≤ b)).eraseReps

/-- Subscribes the caches to the services that routes name, as far as these can be fetched: how many
subscriptions there are. -/
def followEach : List (SelectorKind × String) → Discovery → Nat × Discovery
  | [], d => (0, d)
  | (kind, service) :: rest, d =>
    let (id, _, d) := d.onChange service (.cache kind)
    let (n, d) := followEach rest d
    ((if id.isOk then 1 else 0) + n, d)

/-- Subscribes the caches to all services that routes name. -/
def follow (g : Gateway) : Nat × Gateway :=
  let (n, discovery) := followEach g.followed g.discovery
  (n, { g with discovery })

/-- The transport of the route that claims a request. -/
def find (g : Gateway) (v : RequestView) : Option Transport × Gateway :=
  let found := g.table.find v g.matchers.cache
  (found.payload, { g with matchers := { g.matchers with cache := found.cache } })

end Gateway

end TrafficGateway
