import TrafficGateway.Partition.ServiceTable
import TrafficGateway.Scenario.Step

/-!
# Choices in scenarios

How a scenario names an algorithm, a preference and a list of instances, and the steps on a service
table.

## Main definitions

* `Scenario.factoryOf`, `kindOf`, `tableOptionsOf`: what selectors are built with.
* `Scenario.contextOf`, `localityOf`: what a request prefers.
* `Scenario.tableStep`: a step on a service table.
-/

namespace TrafficGateway

namespace Scenario

/-- The instances of a list. -/
def instancesOf (d : Document) : Except DecodeError (List Instance) := do
  Document.decodeAll Instance.ofDocument (← d.asList)

/-- The instances under a name, none when nothing is there. -/
def instancesField (d : Document) (name : String) : Except DecodeError (List Instance) :=
  ((d.get? name).map instancesOf).getD (.ok [])

/-- The written form of instances. -/
def instanceList (is : List Instance) : Document :=
  .list (is.map Instance.toDocument)

/-- The factory of a scenario. -/
def factoryOf (d : Document) : Except Document SelectorFactory := do
  match optStr d "factory_hash" with
  | some name => return { hash := ← HashFunction.ofName name }
  | none => return {}

/-- The kind of selector that a scenario names, by a policy or directly. -/
def kindOf (f : SelectorFactory) (d : Document) : Except Document SelectorKind := do
  match optStr d "policy" with
  | some policy => return f.kindFor (← BalancePolicy.ofName policy)
  | none => SelectorKind.ofName (str d "kind")

/-- The version and the key that a step gives. -/
def contextOf (d : Document) : RouteContext :=
  .ofSignals (optStr d "version") (optStr d "key")

/-- The written form of a context. -/
def contextDoc (c : RouteContext) : Document :=
  obj [("version", optText c.version), ("hash_key", optText c.hashKey)]

/-- The region and the zone that a document gives. -/
def localityOf (d : Document) : Locality :=
  ⟨str d "region", str d "zone"⟩

/-- The locality of a scenario, if it gives one. -/
def localityField (d : Document) : Option Locality :=
  if has d "locality" then some (localityOf (field d "locality")) else none

/-- How a scenario builds its service tables. -/
def tableOptionsOf (f : SelectorFactory) (d : Document) : Except Document TableOptions := do
  return { kind := ← kindOf f d, localVersion := str d "local_version", locality := localityField d }

/-- A step on a service table. -/
def tableStep (step : Document) : StateM ServiceTable Document := do
  let pick := via Instance.authority fun t : ServiceTable => t.choose (contextOf step)
  match str step "op" with
  | "instances" => return instanceList (← get).instances
  | "is_empty" => return .bool (← get).instances.isEmpty
  | "choose" => pickStep step pick
  | "tally" => tallyStep step pick
  | _ => return badInput "step"

end Scenario

end TrafficGateway
