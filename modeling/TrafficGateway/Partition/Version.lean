import TrafficGateway.Balance.Selector
import TrafficGateway.Dict
import TrafficGateway.Partition.Context

/-!
# Version partitions

Nodes grouped by version tag. The default partition holds every node, tagged or not, so a request
for an unknown version is served from there.

## Main definitions

* `VersionRouter`: a selector for every version and one for the default partition.
* `VersionRouter.build`: the partitions of tagged nodes.
* `VersionRouter.resolve`: the version that a request is served from.
* `VersionRouter.choose`: a pick for a request, and the router after it.
-/

namespace TrafficGateway

/-- A node with its version tag. -/
structure Tagged (α : Type) where
  version : String
  node : Node α
  deriving Repr

/-- Does the tag name a partition of its own? -/
def isVersionTag (version : String) : Bool :=
  !version.isEmpty && version != defaultVersion

/-- A selector over all nodes and one for each version tag. -/
structure VersionRouter (α : Type) where
  all : Selector α
  tagged : Dict String (Selector α)
  localVersion : String

namespace VersionRouter

variable {α : Type}

/-- The nodes that carry a tag, in order. -/
def nodesOf (version : String) (items : List (Tagged α)) : List (Node α) :=
  (items.filter fun t => t.version == version).map (·.node)

/-- The partitions of tagged nodes, for a process of the given version. -/
def build (f : SelectorFactory) (kind : SelectorKind) (localVersion : String)
    (items : List (Tagged α)) : Except BackendError (VersionRouter α) := do
  let all ← f.build kind (items.map (·.node))
  let tags := ((items.map (·.version)).filter isVersionTag).eraseDups
  let tagged ← Dict.ofKeys (fun v => f.build kind (nodesOf v items)) tags
  return { all, tagged, localVersion }

/-- The version that a request is served from: the one it asks for, else that of this process, else
the default. -/
def resolve (r : VersionRouter α) (c : RouteContext) : String :=
  match c.version with
  | some v => if v.isEmpty then fallback else v
  | none => fallback
where
  /-- The version of a request that asks for none. -/
  fallback : String := if r.localVersion.isEmpty then defaultVersion else r.localVersion

/-- The selector of a version. -/
def partition (r : VersionRouter α) (version : String) : Option (Selector α) :=
  if version = defaultVersion then some r.all else r.tagged.get? version

/-- The names of the partitions, in order. -/
def versions (r : VersionRouter α) : List String :=
  (defaultVersion :: r.tagged.keys).mergeSort fun a b => decide (a ≤ b)

/-- A pick from the default partition. -/
def chooseDefault (r : VersionRouter α) (key : Option String) :
    Except BackendError (Node α) × VersionRouter α :=
  let (pick, all) := r.all.select key
  (pick, { r with all })

/-- A pick for a request: from the partition of its version, or from the default partition when
there is none or it fails. -/
def choose (r : VersionRouter α) (c : RouteContext) :
    Except BackendError (Node α) × VersionRouter α :=
  let version := r.resolve c
  match (if version = defaultVersion then none else r.tagged.get? version) with
  | none => r.chooseDefault c.hashKey
  | some selector =>
    let (pick, selector) := selector.select c.hashKey
    let r := { r with tagged := r.tagged.insert version selector }
    match pick with
    | .ok node => (.ok node, r)
    | .error _ => r.chooseDefault c.hashKey

end VersionRouter

end TrafficGateway
