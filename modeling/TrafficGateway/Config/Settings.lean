import TrafficGateway.Gateway.Service
import TrafficGateway.Http.Address
import TrafficGateway.Route.Report

/-!
# The configuration of a gateway

Everything that a gateway is started with: where it listens, what it knows of itself, its times and
retries, the services and the routes. All of it may be left out.

## Main definitions

* `RetryConfig`, `GatewayConfig`: the configuration.
* `GatewayConfig.ofDocument`, `GatewayConfig.toDocument`: its written form.
* `GatewayConfig.trafficPolicy`, `GatewayConfig.options?`: what routes are built with.
-/

namespace TrafficGateway

/-! ### Numbers -/

/-- A field with a number of 64 bits, or its default. -/
def Record.word (r : Record) (name : String) (default : UInt64) : Except DecodeError UInt64 :=
  r.withDefault name default fun d => (d.asNat UInt64.size).map UInt64.ofNat

/-! ### Retries -/

/-- How requests are tried again; times are in milliseconds. -/
structure RetryConfig where
  maxRetries : UInt32 := RetryPolicy.maxRetries {}
  retryableStatusCodes : List UInt16 := RetryPolicy.retryableStatusCodes {}
  initialBackoffMs : UInt64 := RetryPolicy.initialBackoff {}
  maxBackoffMs : UInt64 := RetryPolicy.maxBackoff {}
  deriving DecidableEq, Repr, Inhabited

namespace RetryConfig

/-- The names of the fields, in the order of their declaration. -/
def fieldNames : List String :=
  ["maxRetries", "retryableStatusCodes", "initialBackoffMs", "maxBackoffMs"]

/-- Reads a list of statuses. -/
def codesOfDocument (d : Document) : Except DecodeError (List UInt16) := do
  Document.decodeAll (fun d => (d.asNat UInt16.size).map UInt16.ofNat) (← d.asList)

/-- Reads how requests are tried again. -/
def ofDocument (d : Document) : Except DecodeError RetryConfig := do
  let r ← d.asRecord fieldNames
  let base : RetryConfig := {}
  let maxRetries ← r.withDefault "maxRetries" base.maxRetries fun d =>
    (d.asNat UInt32.size).map UInt32.ofNat
  let retryableStatusCodes ←
    r.withDefault "retryableStatusCodes" base.retryableStatusCodes codesOfDocument
  let initialBackoffMs ← r.word "initialBackoffMs" base.initialBackoffMs
  let maxBackoffMs ← r.word "maxBackoffMs" base.maxBackoffMs
  return { maxRetries, retryableStatusCodes, initialBackoffMs, maxBackoffMs }

/-- The written form. -/
def toDocument (c : RetryConfig) : Document :=
  .table
    [("maxRetries", .nat c.maxRetries.toNat),
      ("retryableStatusCodes", .list (c.retryableStatusCodes.map fun n => .nat n.toNat)),
      ("initialBackoffMs", .nat c.initialBackoffMs.toNat),
      ("maxBackoffMs", .nat c.maxBackoffMs.toNat)]

/-- The policy of exchanges. It counts the whole milliseconds of the spans that are written here. -/
def policy (c : RetryConfig) : RetryPolicy :=
  { maxRetries := c.maxRetries
    retryableStatusCodes := c.retryableStatusCodes
    initialBackoff := (Duration.ofMillis c.initialBackoffMs).toMillis
    maxBackoff := (Duration.ofMillis c.maxBackoffMs).toMillis }

end RetryConfig

/-! ### Services -/

/-- The instances of services, sorted by name. -/
abbrev ServiceList := List (String × List Instance)

namespace ServiceList

/-- The last of the lists that are given for each service, sorted by name. -/
def ofEntries (es : List (String × List Instance)) : ServiceList :=
  (es.foldl (fun d e => Dict.insert d e.1 e.2) Dict.empty).entries.mergeSort
    fun a b => decide (a.1 ≤ b.1)

/-- Reads the instances of services. -/
def ofDocument (d : Document) : Except DecodeError ServiceList := do
  let entries ← (← d.asEntries).mapM fun e => do
    return (e.1, ← Document.decodeAll Instance.ofDocument (← e.2.asList))
  return ofEntries entries

/-- The written form. -/
def toDocument (s : ServiceList) : Document :=
  .table (s.map fun e => (e.1, .list (e.2.map Instance.toDocument)))

end ServiceList

/-! ### Gateways -/

/-- What a gateway is started with; times are in seconds. -/
structure GatewayConfig where
  listen : SocketAddress := { host := .v4 [0, 0, 0, 0], port := 8080 }
  version : String := ""
  versionHeader : String := "x-version"
  locality : Option Locality := none
  matchPolicy : MatchPolicy := .longest
  cacheTtl : UInt64 := 10
  watchInterval : UInt64 := 15
  requestTimeout : UInt64 := 30
  connectTimeout : UInt64 := 10
  retry : RetryConfig := {}
  errorBody : String := defaultErrorBody
  registry : ServiceList := []
  routes : List RouteConfig := []
  deriving Repr, Inhabited

namespace GatewayConfig

/-- The names of the fields, in the order of their declaration. -/
def fieldNames : List String :=
  ["listen", "version", "versionHeader", "locality", "prefixMatchPolicy", "cacheTtlSecs",
    "watchIntervalSecs", "requestTimeoutSecs", "connectTimeoutSecs", "retry", "errorBody",
    "registry", "routes"]

/-- Reads where a gateway listens. -/
def addressOfDocument (d : Document) : Except DecodeError SocketAddress := do
  match SocketAddress.read (← d.asText) with
  | some a => return a
  | none => throw (.mismatch "socket address")

/-- Reads a match policy. -/
def policyOfDocument (d : Document) : Except DecodeError MatchPolicy := do
  let name ← d.asName
  match MatchPolicy.ofName? name with
  | some p => return p
  | none => throw (.unknownName name)

/-- Reads routes. -/
def routesOfDocument (d : Document) : Except DecodeError (List RouteConfig) := do
  Document.decodeAll RouteConfig.ofDocument (← d.asList)

/-- Reads a configuration. -/
def ofDocument (d : Document) : Except DecodeError GatewayConfig := do
  let r ← d.asRecord fieldNames
  let base : GatewayConfig := {}
  let listen ← r.withDefault "listen" base.listen addressOfDocument
  let version ← r.withDefault "version" base.version Document.asText
  let versionHeader ← r.withDefault "versionHeader" base.versionHeader Document.asText
  let locality ← r.withDefault "locality" base.locality (Document.asOptional Locality.ofDocument)
  let matchPolicy ← r.withDefault "prefixMatchPolicy" base.matchPolicy policyOfDocument
  let cacheTtl ← r.word "cacheTtlSecs" base.cacheTtl
  let watchInterval ← r.word "watchIntervalSecs" base.watchInterval
  let requestTimeout ← r.word "requestTimeoutSecs" base.requestTimeout
  let connectTimeout ← r.word "connectTimeoutSecs" base.connectTimeout
  let retry ← r.withDefault "retry" base.retry RetryConfig.ofDocument
  let errorBody ← r.withDefault "errorBody" base.errorBody Document.asText
  let registry ← r.withDefault "registry" base.registry ServiceList.ofDocument
  let routes ← r.withDefault "routes" base.routes routesOfDocument
  return { listen, version, versionHeader, locality, matchPolicy, cacheTtl, watchInterval,
           requestTimeout, connectTimeout, retry, errorBody, registry, routes }

/-- The written form, with every field. -/
def toDocument (c : GatewayConfig) : Document :=
  .table
    [("listen", .text c.listen.render), ("version", .text c.version),
      ("versionHeader", .text c.versionHeader),
      ("locality", .ofOption Locality.toDocument c.locality),
      ("prefixMatchPolicy", .text c.matchPolicy.name), ("cacheTtlSecs", .nat c.cacheTtl.toNat),
      ("watchIntervalSecs", .nat c.watchInterval.toNat),
      ("requestTimeoutSecs", .nat c.requestTimeout.toNat),
      ("connectTimeoutSecs", .nat c.connectTimeout.toNat), ("retry", c.retry.toDocument),
      ("errorBody", .text c.errorBody), ("registry", ServiceList.toDocument c.registry),
      ("routes", .list (c.routes.map RouteConfig.toDocument))]

/-- A number of seconds in milliseconds. -/
def millis (seconds : UInt64) : Nat :=
  1000 * seconds.toNat

/-- The policy of exchanges. -/
def trafficPolicy (c : GatewayConfig) : TrafficPolicy :=
  { requestTimeout := millis c.requestTimeout
    connectTimeout := millis c.connectTimeout
    retry := c.retry.policy }

/-- What routes are built with, unless no header can have the given name. A stream waits for the head
of its response as long as a request does. -/
def options? (c : GatewayConfig) : Option GatewayOptions :=
  (HeaderName.read c.versionHeader).map fun versionHeader =>
    { versionHeader
      localVersion := c.version
      locality := c.locality
      traffic := c.trafficPolicy
      cacheTtl := millis c.cacheTtl
      streamHeaderTimeout := millis c.requestTimeout }

/-- The report of a name that no header can have. -/
def badVersionHeader (c : GatewayConfig) : String :=
  "Invalid versionHeader: " ++ quoted c.versionHeader

/-- The gateway of a configuration, with what became of each of its routes. -/
def gateway (c : GatewayConfig) (options : GatewayOptions) :
    List (Except ForwardError Unit) × Gateway :=
  Gateway.registerAll c.routes
    { options
      table := { policy := c.matchPolicy }
      discovery :=
        { registry := .ofServices c.registry, interval := millis c.watchInterval } }

end GatewayConfig

end TrafficGateway
