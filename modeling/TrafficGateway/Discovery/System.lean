import TrafficGateway.Discovery.Loads
import TrafficGateway.Discovery.Watcher

/-!
# Discovery

A registry, a watcher that polls it, and caches of tables that may follow the watcher, on one clock.
The caches are known by the algorithm of their selectors.

## Main definitions

* `Listener`: who is told of changes.
* `Discovery`: the parts and the time.
* `Discovery.onChange`, `publish`, `poll`: subscriptions and events.
* `Discovery.load`, `loadTogether`, `push`, `invalidate`: the tables of services.
* `Discovery.startPolling`, `stopPolling`, `advance`: the time and the polls that it brings.
-/

namespace TrafficGateway

/-- Who is told of changes: a client, or the cache with an algorithm, which takes the instances over
as if they had been pushed. -/
inductive Listener where
  | client
  | cache (kind : SelectorKind)
  deriving DecidableEq, Repr

/-- A client was told of an event through a subscription. -/
structure Delivery where
  subscription : Nat
  event : ChangeEvent
  deriving DecidableEq, Repr

/-- The written form. -/
def Delivery.toDocument (d : Delivery) : Document :=
  .table
    [("sub", .nat d.subscription), ("service", .text d.event.service),
      ("instances", .texts (d.event.instances.map (·.authority)))]

/-- A registry, its watcher and its caches; the time in milliseconds, the time between polls, when
the next poll is due, and the outcomes of all refreshes. -/
structure Discovery where
  registry : Registry := {}
  watcher : Watcher Listener := {}
  caches : Dict SelectorKind TableCache := .empty
  now : Nat := 0
  interval : Nat := 15000
  nextPoll : Option Nat := none
  outcomes : List (String × RefreshOutcome) := []

namespace Discovery

instance : Inhabited Discovery := ⟨{}⟩

/-! ### Events -/

/-- Tells one listener of an event. A cache that is gone, or that cannot build a table of the
instances, stays as it is. -/
def tell (d : Discovery) (event : ChangeEvent) (s : Subscription Listener) :
    List Delivery × Discovery :=
  match s.callback with
  | .client => ([⟨s.id, event⟩], d)
  | .cache kind =>
    match d.caches.get? kind with
    | none => ([], d)
    | some cache =>
      match cache.update d.now event.service event.instances with
      | .ok cache => ([], { d with caches := d.caches.insert kind cache })
      | .error _ => ([], d)

/-- Tells some listeners of an event, one after the other. -/
def tellAll (event : ChangeEvent) :
    List (Subscription Listener) → Discovery → List Delivery × Discovery
  | [], d => ([], d)
  | s :: ss, d =>
    let (delivered, d) := d.tell event s
    let (more, d) := tellAll event ss d
    (delivered ++ more, d)

/-- Tells everyone who is subscribed to the service of an event: how many they are, what clients were
told, and the state after it. -/
def publish (d : Discovery) (event : ChangeEvent) : Nat × List Delivery × Discovery :=
  let targets := d.watcher.notifier.subscribersOf event.service
  let (delivered, d) := tellAll event targets d
  (targets.length, delivered, d)

/-- Publishes some events, one after the other. -/
def publishAll : List ChangeEvent → Discovery → List Delivery × Discovery
  | [], d => ([], d)
  | event :: events, d =>
    let (_, delivered, d) := d.publish event
    let (more, d) := publishAll events d
    (delivered ++ more, d)

/-- Fetches a service. -/
def fetch (d : Discovery) (service : String) : FetchAnswer × Discovery :=
  let (answer, registry) := d.registry.fetch service
  (answer, { d with registry })

/-- Subscribes to a service: the number of the subscription, and what the new listener is told at
once. If the fetch fails there is no subscription. -/
def onChange (d : Discovery) (service : String) (listener : Listener) :
    Except BackendError Nat × List Delivery × Discovery :=
  let (answer, d) := d.fetch service
  match d.watcher.onChange service listener answer with
  | (.error e, watcher) => (.error e, [], { d with watcher })
  | (.ok (id, event), watcher) =>
    let (delivered, d) := { d with watcher }.tell event ⟨id, service, listener⟩
    (.ok id, delivered, d)

/-- Ends a subscription. -/
def unsubscribe (d : Discovery) (id : Nat) : Discovery :=
  { d with watcher := d.watcher.unsubscribe id }

/-- Fetches every watched service and publishes the changes: how many there are, what clients were
told, and the state after it. -/
def poll (d : Discovery) : Nat × List Delivery × Discovery :=
  let (events, watcher) := d.watcher.poll d.registry.answer
  let registry := d.watcher.watched.foldl Registry.counted d.registry
  let (delivered, d) := publishAll events { d with watcher, registry }
  (events.length, delivered, d)

/-! ### Tables -/

/-- Makes a cache for an algorithm, unless there is one. -/
def openCache (d : Discovery) (kind : SelectorKind) (cache : TableCache) : Discovery :=
  if d.caches.contains kind then d else { d with caches := d.caches.insert kind cache }

/-- Gives a cache up. -/
def closeCache (d : Discovery) (kind : SelectorKind) : Discovery :=
  { d with caches := d.caches.erase kind }

/-- The number of the table of a service in the cache with an algorithm; `none` if there is no such
cache. -/
def load (d : Discovery) (kind : SelectorKind) (service : String) :
    Option (Except BackendError Nat) × Discovery :=
  match d.caches.get? kind with
  | none => (none, d)
  | some cache =>
    let loaded := cache.load d.now service d.registry
    (some loaded.table,
      { d with
        caches := d.caches.insert kind loaded.cache
        registry := loaded.registry
        outcomes := d.outcomes ++ loaded.outcome.toList.map fun o => (service, o) })

/-- Loads of one service that all begin before the registry answers. -/
def loadTogether (d : Discovery) (kind : SelectorKind) (count : Nat) (service : String) :
    Option (List (Except BackendError Nat)) × Discovery :=
  match d.caches.get? kind with
  | none => (none, d)
  | some cache =>
    let (loads, registry) := Loads.together cache d.now count service d.registry
    (some loads.results,
      { d with
        caches := d.caches.insert kind loads.cache
        registry
        outcomes := d.outcomes ++ loads.outcomes })

/-- Pushes the instances of a service into a cache. -/
def push (d : Discovery) (kind : SelectorKind) (service : String) (instances : List Instance) :
    Option (Except BackendError Unit) × Discovery :=
  match d.caches.get? kind with
  | none => (none, d)
  | some cache =>
    match cache.update d.now service instances with
    | .ok cache => (some (.ok ()), { d with caches := d.caches.insert kind cache })
    | .error e => (some (.error e), d)

/-- Takes the entry of a service out of a cache: was there one? -/
def invalidate (d : Discovery) (kind : SelectorKind) (service : String) :
    Option Bool × Discovery :=
  match d.caches.get? kind with
  | none => (none, d)
  | some cache =>
    (some (cache.entries.contains service),
      { d with caches := d.caches.insert kind (cache.invalidate service) })

/-- An instance for a request, from a table of a cache. -/
def chooseFrom (d : Discovery) (kind : SelectorKind) (table : Nat) (c : RouteContext) :
    Option (Except BackendError Instance) × Discovery :=
  match d.caches.get? kind with
  | none => (none, d)
  | some cache =>
    match cache.table? table with
    | none => (none, d)
    | some t =>
      let (pick, t) := t.choose c
      (some pick, { d with caches := d.caches.insert kind (cache.setTable table t) })

/-! ### Time -/

/-- By how much a poll may be late without putting off those after it. -/
def tolerance : Nat := 5

/-- A poll that has become due. Those after it keep their times, unless this one is late: then the
next comes an interval from now. -/
def pollWhenDue (d : Discovery) : List Delivery × Discovery :=
  match d.nextPoll with
  | none => ([], d)
  | some due =>
    if due ≤ d.now then
      let (_, delivered, d) := d.poll
      let next := if due + tolerance < d.now then d.now + d.interval else due + d.interval
      (delivered, { d with nextPoll := some next })
    else ([], d)

/-- Polls now and from now on at every interval. Without an interval there are no polls. -/
def startPolling (d : Discovery) : List Delivery × Discovery :=
  if d.interval = 0 then ([], { d with nextPoll := none })
  else { d with nextPoll := some d.now }.pollWhenDue

/-- Polls no more. -/
def stopPolling (d : Discovery) : Discovery :=
  { d with nextPoll := none }

/-- Time goes on in one leap, which brings at most one poll. -/
def advance (d : Discovery) (ms : Nat) : List Delivery × Discovery :=
  { d with now := d.now + ms }.pollWhenDue

end Discovery

end TrafficGateway
