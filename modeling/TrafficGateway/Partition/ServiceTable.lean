import TrafficGateway.Partition.Nearby

/-!
# Service tables

The instances of one service, ready to be chosen from.

## Main definitions

* `TableOptions`: how tables are built.
* `ServiceTable`: normalized instances and their partitions.
* `ServiceTable.build`: the table of a list of instances.
* `ServiceTable.choose`: an instance for a request, and the table after the pick.
-/

namespace TrafficGateway

/-- How the tables of services are built: the algorithm of every selector, the version of this
process, and where it runs if requests are to be served nearby. -/
structure TableOptions where
  kind : SelectorKind := .roundRobin
  localVersion : String := ""
  locality : Option Locality := none
  deriving DecidableEq, Repr, Inhabited

/-- The partitions of a table: by version only, or by locality first. -/
inductive TableRouter where
  | versioned (router : VersionRouter Instance)
  | nearby (router : NearbyRouter Instance)

/-- The normalized instances of a service and their partitions. -/
structure ServiceTable where
  instances : List Instance
  router : TableRouter

namespace ServiceTable

/-- The node of an instance, named by its authority. -/
def toNode (i : Instance) : Node Instance :=
  ⟨i.authority, i, i.weight.toNat⟩

/-- The table of a list of instances. It fails exactly when a selector over some of them cannot be
built. -/
def build (f : SelectorFactory) (options : TableOptions) (instances : List Instance) :
    Except BackendError ServiceTable := do
  let instances := instances.map (·.normalize)
  match options.locality with
  | none =>
    let items := instances.map fun i => Tagged.mk i.version (toNode i)
    let router ← VersionRouter.build f options.kind options.localVersion items
    return { instances, router := .versioned router }
  | some here =>
    let items := instances.map fun i => Placed.mk i.version ⟨i.region, i.zone⟩ (toNode i)
    let router ← NearbyRouter.build f options.kind options.localVersion here items
    return { instances, router := .nearby router }

/-- An instance for a request, and the table after the pick. -/
def choose (t : ServiceTable) (c : RouteContext) : Except BackendError Instance × ServiceTable :=
  match t.router with
  | .versioned router =>
    let (pick, router) := router.choose c
    (pick.map (·.data), { t with router := .versioned router })
  | .nearby router =>
    let (pick, router) := router.choose c
    (pick.map (·.data), { t with router := .nearby router })

end ServiceTable

end TrafficGateway
