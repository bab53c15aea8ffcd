import TrafficGateway.Discovery.Notifier
import TrafficGateway.Discovery.Registry

/-!
# Watching services

A watcher remembers the instances of some services as it saw them last, sorted, and tells the
subscribers of a service when a poll finds others. The order in which a registry lists instances
does not matter.

## Main definitions

* `Watcher`: the lists that were seen last, and the subscriptions.
* `Watcher.watch`, `Watcher.unwatch`: which services are polled.
* `Watcher.onChange`: a subscription that begins with the instances of the moment.
* `Watcher.poll`: the changes that the answers of a registry bring, and the watcher after them.
-/

namespace TrafficGateway

/-- The instances of the watched services as they were seen last, and the subscriptions. -/
structure Watcher (α : Type) where
  notifier : Notifier α := {}
  known : Dict String (List Instance) := .empty

namespace Watcher

variable {α : Type}

instance : Inhabited (Watcher α) := ⟨{}⟩

/-- Adds a service to those that are polled, with no instances seen so far. -/
def watch (w : Watcher α) (service : String) : Watcher α :=
  if w.known.contains service then w else { w with known := w.known.insert service [] }

/-- Takes a service out of those that are polled. Its subscriptions stay. -/
def unwatch (w : Watcher α) (service : String) : Watcher α :=
  { w with known := w.known.erase service }

/-- The services that are polled, in order. -/
def watched (w : Watcher α) : List String :=
  w.known.keys.mergeSort fun a b => decide (a ≤ b)

/-- Ends a subscription. -/
def unsubscribe (w : Watcher α) (id : Nat) : Watcher α :=
  { w with notifier := w.notifier.unsubscribe id }

/-- Subscribes to a service, of which a fetch then gives the answer: the number of the subscription and
the event that it begins with. Without instances the subscription is withdrawn. -/
def onChange (w : Watcher α) (service : String) (callback : α) (answer : FetchAnswer) :
    Except BackendError (Nat × ChangeEvent) × Watcher α :=
  let id := w.notifier.nextId
  let notifier := w.notifier.subscribe service callback
  match answer with
  | .error e => (.error e, { w with notifier := notifier.withdraw })
  | .ok instances =>
    let instances := Instance.sort instances
    (.ok (id, ⟨service, instances⟩), { notifier, known := w.known.insert service instances })

/-- What a fetch of a service tells the watcher: an event if the instances are others than those seen
last. A failed fetch tells nothing. -/
def observe (w : Watcher α) (service : String) (answer : FetchAnswer) :
    Option ChangeEvent × Watcher α :=
  match answer, w.known.get? service with
  | .ok instances, some seen =>
    let instances := Instance.sort instances
    if instances = seen then (none, w)
    else (some ⟨service, instances⟩, { w with known := w.known.insert service instances })
  | _, _ => (none, w)

/-- The events that the answers for some services bring, and the watcher after them. -/
def observeAll (answer : String → FetchAnswer) : List String → Watcher α → List ChangeEvent × Watcher α
  | [], w => ([], w)
  | service :: services, w =>
    let (event, w) := w.observe service (answer service)
    let (events, w) := observeAll answer services w
    (event.toList ++ events, w)

/-- The events that the answers for all watched services bring, in the order of the services, and the
watcher after them. -/
def poll (w : Watcher α) (answer : String → FetchAnswer) : List ChangeEvent × Watcher α :=
  observeAll answer w.watched w

end Watcher

end TrafficGateway
