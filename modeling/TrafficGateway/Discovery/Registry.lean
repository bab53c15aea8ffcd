import TrafficGateway.Balance.Error
import TrafficGateway.Dict
import TrafficGateway.Instance

/-!
# Registries

Where the instances of services are written down, and what fetching them answers. Fetches are
counted, whether they succeed or not, and can be made to fail.

## Main definitions

* `Registry`: the services with their instances, the outages and the counts.
* `Registry.register`, `update`, `deregister`, `setOutage`: changes.
* `Registry.lookup`: the instances that are written down.
* `Registry.answer`, `Registry.fetch`: what a fetch answers, and the registry after it.
-/

namespace TrafficGateway

/-- Services with their instances, the services whose fetches fail and why, and how often each service
was fetched. -/
structure Registry where
  services : Dict String (List Instance) := .empty
  outages : Dict String BackendError := .empty
  fetches : Dict String Nat := .empty
  deriving Inhabited

/-- What a fetch gives: the instances, or why there are none. -/
abbrev FetchAnswer := Except BackendError (List Instance)

namespace Registry

/-- The registry of the given services. -/
def ofServices (services : List (String × List Instance)) : Registry :=
  { services := services.foldl (fun d s => d.insert s.1 s.2) .empty }

/-- Reads a registry: the lists of instances of named services. -/
def ofDocument (d : Document) : Except DecodeError Registry := do
  let entries ← d.asEntries
  let services ← entries.mapM fun e => do
    return (e.1, ← Document.decodeAll Instance.ofDocument (← e.2.asList))
  return ofServices services

/-- Why nothing can be said of a service that is not registered. -/
def unknown (service : String) : BackendError :=
  .registry ("service " ++ service ++ " not found")

/-- Registers a service, or replaces one. -/
def register (r : Registry) (service : String) (instances : List Instance) : Registry :=
  { r with services := r.services.insert service instances }

/-- Replaces the instances of a registered service. -/
def update (r : Registry) (service : String) (instances : List Instance) :
    Except BackendError Registry :=
  if r.services.contains service then .ok (r.register service instances)
  else .error (unknown service)

/-- Takes a service out, if it is in. -/
def deregister (r : Registry) (service : String) : Registry :=
  { r with services := r.services.erase service }

/-- Lets the fetches of a service fail with an error, or no longer. -/
def setOutage (r : Registry) (service : String) (error : Option BackendError) : Registry :=
  match error with
  | some error => { r with outages := r.outages.insert service error }
  | none => { r with outages := r.outages.erase service }

/-- The names of the registered services, in order. -/
def names (r : Registry) : List String :=
  r.services.keys.mergeSort fun a b => decide (a ≤ b)

/-- The instances that are written down for a service. -/
def lookup (r : Registry) (service : String) : FetchAnswer :=
  match r.services.get? service with
  | some instances => .ok instances
  | none => .error (unknown service)

/-- What a fetch of a service answers. -/
def answer (r : Registry) (service : String) : FetchAnswer :=
  match r.outages.get? service with
  | some error => .error error
  | none => r.lookup service

/-- How often a service was fetched. -/
def fetchCount (r : Registry) (service : String) : Nat :=
  (r.fetches.get? service).getD 0

/-- The registry after one more fetch of a service. -/
def counted (r : Registry) (service : String) : Registry :=
  { r with fetches := r.fetches.insert service (r.fetchCount service + 1) }

/-- What a fetch of a service answers, and the registry after it. -/
def fetch (r : Registry) (service : String) : FetchAnswer × Registry :=
  (r.answer service, r.counted service)

theorem fetchCount_counted (r : Registry) (service other : String) :
    (r.counted service).fetchCount other =
      r.fetchCount other + if service = other then 1 else 0 := by
  by_cases h : service = other <;> simp [counted, fetchCount, h]

@[simp]
theorem answer_counted (r : Registry) (service other : String) :
    (r.counted service).answer other = r.answer other := rfl

end Registry

end TrafficGateway
