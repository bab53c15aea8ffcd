import TrafficGateway.Discovery.System
import TrafficGateway.Scenario.Choice

/-!
# Discovery in scenarios

Steps on a registry, on a notifier, and on a discovery with one cache. What clients were told during a
step is shown beside its answer.

## Main definitions

* `Scenario.registryStep`: a step on a registry.
* `Scenario.notifierStep`: a step on a notifier.
* `Scenario.DiscoveryRun`, `Scenario.discoveryStep`: a discovery and a step on it.
-/

namespace TrafficGateway

namespace Scenario

/-! ### Registries -/

/-- The registry of a scenario. -/
def registryOf (d : Document) : Except Document Registry := do
  if has d "registry" then Registry.ofDocument (field d "registry") else return {}

/-- A step on a registry, which may be a fetch; `none` when it is no such step. -/
def registryStep (fetches : Bool) (step : Document) : StateM Registry (Option Document) := do
  let service := str step "service"
  let r ← get
  let fetched (a : FetchAnswer) : Document := answer do return instanceList (← a)
  let replace (use : List Instance → Except BackendError Registry) : StateM Registry Document :=
    match instancesField step "instances" with
    | .error _ => return deserialize
    | .ok is =>
      match use is with
      | .ok r => do
        set r
        return ok
      | .error e => return e.toDocument
  match str step "op", fetches with
  | "register", _ => replace fun is => .ok (r.register service is)
  | "update", _ => replace (r.update service)
  | "deregister", _ => replace fun _ => .ok (r.deregister service)
  | "fail", _ =>
    let error := if bool step "on" true then some (.registry "injected") else none
    replace fun _ => .ok (r.setOutage service error)
  | "list", _ => return some (.texts r.names)
  | "get", _ => return fetched (r.lookup service)
  | "fetches", _ => return some (.nat (r.fetchCount service))
  | "fetch", true => return fetched (← modifyGet fun r => r.fetch service)
  | _, _ => return none

/-! ### Notifiers -/

/-- The number that names a subscription, if such a one was ever made. -/
def subscriptionOf {α : Type} (step : Document) (n : Notifier α) : Option Nat :=
  (natOf? (field step "id")).filter (· < n.nextId)

/-- What a subscriber does when it is told; those that it subscribes do nothing. -/
def reactionOf (d : Document) : Notifier.Script Document :=
  match optStr d "subscribe", natOf? (field d "unsubscribe") with
  | some service, _ => .ask (.subscribe service .null) fun _ => .done
  | none, some id => .ask (.unsubscribe id) fun _ => .done
  | none, none => .done

/-- A step on a notifier whose callbacks are written down. -/
def notifierStep (step : Document) : StateM (Notifier Document) Document := do
  let service := str step "service"
  let n ← get
  match str step "op" with
  | "subscribe" =>
    set (n.subscribe service (field step "then"))
    return .nat n.nextId
  | "unsubscribe" =>
    match subscriptionOf step n with
    | some id =>
      set (n.unsubscribe id)
      return .bool (n.contains id)
    | none => return badInput "id"
  | "publish" =>
    match instancesField step "instances" with
    | .error _ => return deserialize
    | .ok is =>
      let event : ChangeEvent := ⟨service, is⟩
      let react (s : Subscription Document) (_ : ChangeEvent) := reactionOf s.callback
      let (delivered, notes, n) := n.publish react event
      set n
      let told := (Notifier.calls notes).map fun call => Delivery.toDocument ⟨call.1.id, call.2⟩
      return obj [("delivered", .nat delivered), ("events", .list told)]
  | "count" => return .nat (n.count service)
  | _ => return badInput "step"

/-! ### Discovery -/

/-- A discovery, the algorithm of its cache, the tables that are held under names, the cache that was
given up, how many outcomes were shown, and what clients were told in this step. -/
structure DiscoveryRun where
  discovery : Discovery
  kind : SelectorKind
  held : List (String × Nat) := []
  given : Option TableCache := none
  shown : Nat := 0
  told : List Delivery := []

/-- The written form of the outcomes of refreshes. -/
def outcomesDoc (outcomes : List (String × RefreshOutcome)) : Document :=
  .list (outcomes.map fun o => .texts [o.1, o.2.name])

namespace DiscoveryRun

variable {α : Type}

/-- The cache that holds the tables, in use or given up. -/
def cache (s : DiscoveryRun) : TableCache :=
  ((s.discovery.caches.get? s.kind).or s.given).getD {}

/-- Replaces the table with a number. -/
def setTable (s : DiscoveryRun) (number : Nat) (t : ServiceTable) : DiscoveryRun :=
  { s with
    discovery.caches := s.discovery.caches.modify s.kind (·.setTable number t)
    given := s.given.map (·.setTable number t) }

/-- A step on the table with a number. -/
def onTable (number : Nat) (step : Document) : StateM DiscoveryRun Document := do
  match (← get).cache.table? number with
  | none => return badInput "held"
  | some t =>
    let (r, t) := tableStep step t
    modify (·.setTable number t)
    return r

/-- Runs an operation of the discovery, which may tell clients of events. -/
def telling (run : Discovery → α × List Delivery × Discovery) : StateM DiscoveryRun α :=
  modifyGet fun s =>
    let (a, told, discovery) := run s.discovery
    (a, { s with discovery, told := s.told ++ told })

/-- Runs an operation of the discovery that tells nobody. -/
def quietly (run : Discovery → α × Discovery) : StateM DiscoveryRun α :=
  telling fun d => ((run d).1, [], (run d).2)

/-- An answer of the cache, unless there is none. -/
def cached (run : StateM DiscoveryRun (Option α)) (use : α → StateM DiscoveryRun Document) :
    StateM DiscoveryRun Document := do
  match ← run with
  | some a => use a
  | none => return badInput "no cache"

/-- Loads the table of a service and goes on with its number. -/
def loaded (service : String) (use : Nat → StateM DiscoveryRun Document) :
    StateM DiscoveryRun Document := do
  let kind := (← get).kind
  cached (quietly fun d => d.load kind service) fun r =>
    match r with
    | .error e => return e.toDocument
    | .ok table => use table

/-- The number of the table that is held under a name. -/
def heldAs (s : DiscoveryRun) (name : String) : Option Nat :=
  (s.held.find? fun h => h.1 == name).map (·.2)

/-- A step on the cache. -/
def cacheStep (step : Document) : StateM DiscoveryRun (Option Document) := do
  let s ← get
  let d := s.discovery
  let service := str step "service"
  match str step "op" with
  | "load" => loaded service fun table => do
    let s ← get
    let same := (optStr step "same_as").map fun name => s.heldAs name == some table
    let held := (optStr step "hold").map fun name => (name, table)
    set { s with held := held.toList ++ s.held }
    let is := ((s.cache.table? table).map (·.instances)).getD []
    return obj [("instances", instanceList is), ("same", .ofOption .bool same)]
  | "pick" => loaded service fun table => onTable table (field step "step")
  | "held" => onTable ((s.heldAs (str step "name")).getD s.cache.nextTable) (field step "step")
  | "concurrent" =>
    cached (quietly fun d => d.loadTogether s.kind (nat step "n" 1) service) fun results => do
      let tables := results.filterMap Except.toOption
      let errors := results.filterMap fun r => match r with
        | .error e => some e
        | .ok _ => none
      return obj
        [("ok", .nat tables.length), ("failed", .nat errors.length),
          ("distinct_tables", .nat tables.eraseDups.length),
          ("errors", .list (errors.eraseReps.map (·.toDocument)))]
  | "invalidate" => cached (quietly fun d => d.invalidate s.kind service) fun b => return .bool b
  | "cached" => cached (pure (d.caches.get? s.kind)) fun cache => return .texts cache.cached
  | "push" => cached (pure (d.caches.get? s.kind)) fun _ =>
    match instancesField step "instances" with
    | .error _ => return deserialize
    | .ok is => cached (quietly fun d => d.push s.kind service is) fun r =>
      return isOk BackendError.toDocument r
  | "drop_cache" =>
    set { s with given := some s.cache, discovery := d.closeCache s.kind }
    return some ok
  | _ => return none

/-- A step on the watcher and on the time. -/
def watcherStep (step : Document) : StateM DiscoveryRun Document := do
  let s ← get
  let d := s.discovery
  let service := str step "service"
  let watched (change : Watcher Listener → Watcher Listener) : StateM DiscoveryRun Document := do
    modify fun s => { s with discovery.watcher := change s.discovery.watcher }
    return .texts (← get).discovery.watcher.watched
  let subscribe (listener : Listener) : StateM DiscoveryRun Document := do
    match ← telling (·.onChange service listener) with
    | .ok id => return .nat id
    | .error e => return e.toDocument
  match str step "op" with
  | "follow" => cached (pure (d.caches.get? s.kind)) fun _ => subscribe (.cache s.kind)
  | "on_change" => subscribe .client
  | "watch" => watched (·.watch service)
  | "unwatch" => watched (·.unwatch service)
  | "watched" => watched id
  | "unsubscribe" =>
    match subscriptionOf step d.watcher.notifier with
    | some id =>
      set { s with discovery := d.unsubscribe id }
      return .bool (d.watcher.notifier.contains id)
    | none => return badInput "id"
  | "subscribers" => return .nat (d.watcher.notifier.count service)
  | "poll" => return .nat (← telling (·.poll))
  | "publish" =>
    match instancesField step "instances" with
    | .error _ => return deserialize
    | .ok is => return .nat (← telling (·.publish ⟨service, is⟩))
  | "spawn" => telling fun d => (ok, d.startPolling)
  | "stop" =>
    set { s with discovery := d.stopPolling }
    return ok
  | "advance" => telling fun d => (ok, d.advance (nat step "ms" 0))
  | "outcomes" =>
    set { s with shown := d.outcomes.length }
    return outcomesDoc (d.outcomes.drop s.shown)
  | _ => return badInput "step"

end DiscoveryRun

/-- What clients were told, stably sorted by service. -/
def deliveriesDoc (told : List Delivery) : Document :=
  let sorted := told.mergeSort fun a b => decide (a.event.service ≤ b.event.service)
  .list (sorted.map Delivery.toDocument)

/-- The first of two answers that there is. -/
def firstOf {σ : Type} (run : StateM σ (Option Document)) (otherwise : StateM σ Document) :
    StateM σ Document := do
  match ← run with
  | some r => return r
  | none => otherwise

/-- A step on a registry, a cache, or a watcher, and what clients were told during it. -/
def discoveryStep (step : Document) : StateM DiscoveryRun Document := do
  let onRegistry := zoom (·.discovery.registry)
    (fun s registry => { s with discovery.registry := registry }) (registryStep false step)
  let r ← firstOf onRegistry (firstOf (DiscoveryRun.cacheStep step) (DiscoveryRun.watcherStep step))
  let told := (← get).told
  modify fun s => { s with told := [] }
  return obj (("r", r) :: if told.isEmpty then [] else [("events", deliveriesDoc told)])

/-- The start of a scenario. -/
def DiscoveryRun.ofDocument (d : Document) : Except Document DiscoveryRun := do
  let factory ← factoryOf d
  let options ← tableOptionsOf factory d
  let cache : TableCache := { factory, options, ttl := nat d "ttl_ms" 10000 }
  let discovery : Discovery :=
    { registry := ← registryOf d, interval := nat d "interval_ms" 15000 }
  return { discovery := discovery.openCache options.kind cache, kind := options.kind }

end Scenario

end TrafficGateway
