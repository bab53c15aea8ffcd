import TrafficGateway.Gateway.Service
import TrafficGateway.Route.Report
import TrafficGateway.Scenario.Discovery
import TrafficGateway.Scenario.Hooks

/-!
# Gateways in scenarios

A gateway with written routes, options and middleware, and steps on it. Nothing listens where its
backends should be, so that a request which is sent on always fails.

## Main definitions

* `Scenario.GatewayRun`: a gateway as a service.
* `Scenario.gatewayStep`: a step on it.
* `Scenario.gatewayAnswer`: a whole scenario.
-/

namespace TrafficGateway

namespace Scenario

/-! ### Requests -/

/-- What arrives of a written body. -/
def bodyItemOf (d : Document) : Except Document ChannelItem :=
  match optStr d "error" with
  | some reason => return .failure reason
  | none => orElse invalidRequest ((Frame.ofDocument d).map .frame)

/-- A written body: frames, or bytes. -/
def bodyOf (d : Document) : Except Document (List ChannelItem) :=
  if has d "frames" then (items d "frames").mapM bodyItemOf
  else if has d "body" then return [.frame (.data (Bytes.ofDocument (field d "body")))]
  else return []

/-- A written request. -/
def requestOf (d : Document) : Except Document Request := do
  let head ← orElse invalidRequest (RequestHead.ofDocument d)
  let body ← bodyOf d
  let client ← match optStr d "client_addr" with
    | some text => (orElse (badInput "client_addr") (SocketAddress.read text)).map some
    | none => pure none
  return { head, body, client }

/-- What routes see of a written request, and its query. -/
def viewAndQueryOf (d : Document) : Except Document (RequestView × Option String) := do
  let view ← orElse invalidRequest (RequestView.ofDocument d)
  match optStr d "path" with
  | some _ => return (view, none)
  | none => return (view, (RequestHead.ofDocument d).bind fun r => r.uri.query)

/-! ### Runs -/

/-- A gateway as a service, whether its administration is behind it, and how many outcomes of
refreshes were shown. -/
structure GatewayRun where
  service : Service HookWorld
  isAdmin : Bool := false
  shown : Nat := 0

namespace GatewayRun

/-- The gateway of a service. -/
def gateway (s : GatewayRun) : Gateway :=
  s.service.gateway

/-- Replaces the gateway. -/
def setGateway (s : GatewayRun) (gateway : Gateway) : GatewayRun :=
  { s with service := { s.service with gateway } }

/-- Runs an operation of the gateway. -/
def onGateway {α : Type} (run : StateM Gateway α) : StateM GatewayRun α :=
  zoom gateway setGateway run

/-- The metrics of a service as they are handed out, with the refreshes of discovered tables. -/
def metricLines (s : Service HookWorld) : List String :=
  (s.gateway.discovery.outcomes.foldl Metrics.refreshed s.world.metrics).exposition

/-- What is behind the gateway. -/
def behind (isAdmin : Bool) (s : Service HookWorld) (r : Request) : Response :=
  if isAdmin then Behind.admin (metricLines s) r.head.uri.path else Behind.notFound

/-- The headers that say how a body is sent, and when. -/
def transferHeaders : List String :=
  ["date", "content-length", "transfer-encoding"]

/-- The written form of the answer to a request; metrics are shown as lines. -/
def servedDoc (isAdmin : Bool) (r : Request) (served : Served HookWorld) : Document :=
  let showsMetrics := isAdmin && served.events == [.passedThrough] && r.head.uri.path == "/metrics"
  let response :=
    { served.response with
      headers := served.response.headers.filter fun e => !transferHeaders.contains e.1 }
  let fields := if showsMetrics then
      [("status", .nat response.status.code), ("headers", response.headers.toDocument),
        ("body", .texts (metricLines served.service))]
    else response.fields
  obj (fields ++
    [("trailers", .ofOption Headers.toDocument (Frame.lastTrailers? response.body)),
      ("upstream", .list []), ("events", .texts served.service.world.events)])

/-- A request to the service, and what was logged during it. -/
def serve (step : Document) : StateM GatewayRun Document := do
  match requestOf (field step "request") with
  | .error e => return e
  | .ok r =>
    let s ← get
    let served := s.service.serve .unreachable (behind s.isAdmin) r
    set { s with service := { served.service with world.events := [] } }
    return servedDoc s.isAdmin r served

end GatewayRun

/-! ### Steps on the gateway -/

/-- The route that claims a request, and what it makes of it. -/
def transportDoc (g : Gateway) (t : Transport) (v : RequestView) (query : Option String) :
    Document :=
  let discovered := match t.target with
    | .mock _ => none
    | .forward source _ => some source.isDiscovered
  obj
    [("name", .text t.name), ("target_type", .text t.targetType.name),
      ("rewrite", t.pathRule.toDocument),
      ("context", contextDoc (t.context g.options.versionHeader v.headers)),
      ("outbound", .text (t.pathRule.target v.path query)),
      ("discovery", .ofOption .bool discovered)]

/-- Finds the route of a request and goes on with its transport. -/
def withTransport (step : Document)
    (use : Transport → RequestView → Option String → StateM Gateway Document) :
    StateM Gateway Document := do
  match viewAndQueryOf (field step "request") with
  | .error e => return e
  | .ok (v, query) =>
    match ← modifyGet fun g => g.find v with
    | some t => use t v query
    | none => return .null

/-- Chooses backends for a request. -/
def resolveStep (step : Document) : StateM Gateway Document :=
  withTransport step fun t v _ => do
    match t.target with
    | .mock _ => return .text "mock"
    | .forward source _ =>
      let context := t.context (← get).options.versionHeader v.headers
      let picks ← times (nat step "n" 1) (Gateway.resolve source context)
      let names := picks.map (·.map Endpoint.render)
      if bool step "tally" false then
        match names.mapM id with
        | .error e => return e.toDocument
        | .ok names => return countNames names
      else
        return .list (names.map fun name =>
          match name with
          | .ok name => .text name
          | .error e => e.toDocument)

/-- A step on the gateway itself; `none` when it is no such step. -/
def gatewayOnlyStep (step : Document) : StateM Gateway (Option Document) := do
  let g ← get
  match str step "op" with
  | "find" => withTransport step fun t v query => return transportDoc g t v query
  | "resolve" => resolveStep step
  | "services" => return some (.texts g.services)
  | "follow" =>
    let n ← modifyGet (·.follow)
    return some (.list [.nat n, .texts (← get).discovery.watcher.watched])
  | "poll" =>
    let (changes, _, discovery) := g.discovery.poll
    set { g with discovery }
    return some (.nat changes)
  | "cached" =>
    match kindOf g.factory step with
    | .error e => return some e
    | .ok kind =>
      return some (.texts (((g.discovery.caches.get? kind).map (·.cached)).getD []))
  | _ => return none

/-- A step on a gateway. -/
def gatewayStep (step : Document) : StateM GatewayRun Document := do
  let onRegistry := zoom (·.gateway.discovery.registry)
    (fun s registry => { s with service.gateway.discovery.registry := registry })
    (registryStep false step)
  firstOf onRegistry <| firstOf (GatewayRun.onGateway (gatewayOnlyStep step)) do
    let s ← get
    match str step "op" with
    | "outcomes" =>
      let outcomes := s.gateway.discovery.outcomes
      set { s with shown := outcomes.length }
      return outcomesDoc (outcomes.drop s.shown)
    | "metrics" => return .texts (GatewayRun.metricLines s.service)
    | "request" => GatewayRun.serve step
    | _ => return badInput "step"

/-! ### Whole scenarios -/

/-- The written options of a gateway. -/
def gatewayOptionsOf (d : Document) : Except Document GatewayOptions := do
  let versionHeader ← orElse invalidRequest
    (HeaderName.read ((optStr d "version_header").getD "x-version"))
  let codes := if has d "codes" then (items d "codes").filterMap natOf? else [502, 503, 504]
  return {
    versionHeader
    localVersion := str d "local_version"
    locality := localityField d
    traffic.retry.maxRetries := .ofNat (nat d "max_retries" 1)
    traffic.retry.retryableStatusCodes := codes.map .ofNat
    traffic.retry.initialBackoff := .ofNat (nat d "initial_backoff_ms" 1)
    traffic.retry.maxBackoff := .ofNat (nat d "max_backoff_ms" 2)
    traffic.requestTimeout := nat d "timeout_ms" 30000
    streamHeaderTimeout := nat d "timeout_ms" 30000
    cacheTtl := nat d "cache_ttl_ms" 10000 }

/-- The written match policy. -/
def policyOf (d : Document) : MatchPolicy :=
  (MatchPolicy.ofName? (str d "policy")).getD .longest

/-- A whole scenario: the outcomes of the registrations, the size of the table, and the steps. -/
def gatewayAnswer (d : Document) : Op := do
  let routes ← (items d "routes").mapM fun r => do return ← RouteConfig.ofDocument r
  let factory ← factoryOf d
  let options ← gatewayOptionsOf (field d "options")
  let gateway : Gateway :=
    { options, factory, table := { policy := policyOf d }, discovery.registry := ← registryOf d }
  let (outcomes, gateway) := Gateway.registerAll routes gateway
  let service : Service HookWorld :=
    { gateway
      chain := chainOf d "middleware"
      errorBody := (optStr d "error_body").getD defaultErrorBody
      world := {} }
  let size := gateway.table.size
  return obj
    [("registered",
        if bool d "register_all" false then .nat (outcomes.filter (·.isOk)).length
        else .list (outcomes.map (isOk ForwardError.toDocument))),
      ("accepted", .nat gateway.registered), ("len", .nat size), ("is_empty", .bool (size == 0)),
      ("steps",
        runSteps gatewayStep d "steps" { service, isAdmin := str d "inner" == "admin" })]

end Scenario

end TrafficGateway
