import TrafficGateway.Partition.Version

/-!
# Locality

Nodes grouped by where they run. A request is served from the zone it comes from, else from the
region, else from anywhere; each of these is partitioned by version.

## Main definitions

* `Locality`: a region and a zone.
* `NearbyRouter`: the version partitions of every zone, of every region and of all nodes.
* `NearbyRouter.chooseFrom`, `NearbyRouter.choose`: a pick for a request from somewhere and from
  here, and the router after it.
-/

namespace TrafficGateway

/-- A region and a zone inside it. -/
structure Locality where
  region : String := ""
  zone : String := ""
  deriving DecidableEq, Repr, Inhabited

namespace Locality

/-- The names of the fields, in the order of their declaration. -/
def fieldNames : List String := ["region", "zone"]

/-- Reads a locality, of which both fields are required. -/
def ofDocument (d : Document) : Except DecodeError Locality := do
  let r ← d.asRecord fieldNames
  let region ← r.required "region" Document.asText
  let zone ← r.required "zone" Document.asText
  return { region, zone }

/-- The written form. -/
def toDocument (l : Locality) : Document :=
  .table [("region", .text l.region), ("zone", .text l.zone)]

end Locality

/-- A node with its version tag and its locality. -/
structure Placed (α : Type) where
  version : String
  locality : Locality
  node : Node α
  deriving Repr

namespace Placed

variable {α : Type}

/-- The node with its version tag only. -/
def toTagged (p : Placed α) : Tagged α :=
  ⟨p.version, p.node⟩

/-- Is the region of the node known? -/
def hasRegion (p : Placed α) : Bool :=
  !p.locality.region.isEmpty

/-- Are the region and the zone of the node known? -/
def hasZone (p : Placed α) : Bool :=
  p.hasRegion && !p.locality.zone.isEmpty

end Placed

/-- Version partitions of all nodes, of every region and of every zone, and where this process
runs. -/
structure NearbyRouter (α : Type) where
  everywhere : VersionRouter α
  regions : Dict String (VersionRouter α)
  zones : Dict Locality (VersionRouter α)
  here : Locality

namespace NearbyRouter

variable {α : Type}

/-- The version partitions of placed nodes, of their regions and of their zones. -/
def build (f : SelectorFactory) (kind : SelectorKind) (localVersion : String) (here : Locality)
    (items : List (Placed α)) : Except BackendError (NearbyRouter α) := do
  let table (members : List (Placed α)) :=
    VersionRouter.build f kind localVersion (members.map (·.toTagged))
  let inRegions := items.filter (·.hasRegion)
  let inZones := items.filter (·.hasZone)
  let everywhere ← table items
  let regions ← Dict.ofKeys
    (fun region => table (inRegions.filter fun p => p.locality.region == region))
    (inRegions.map (·.locality.region)).eraseDups
  let zones ← Dict.ofKeys
    (fun locality => table (inZones.filter fun p => p.locality == locality))
    (inZones.map (·.locality)).eraseDups
  return { everywhere, regions, zones, here }

/-- A pick from anywhere. -/
def chooseEverywhere (r : NearbyRouter α) (c : RouteContext) :
    Except BackendError (Node α) × NearbyRouter α :=
  let (pick, everywhere) := r.everywhere.choose c
  (pick, { r with everywhere })

/-- A pick from a region, or from anywhere when the region is unknown or its table fails. -/
def chooseRegion (r : NearbyRouter α) (region : String) (c : RouteContext) :
    Except BackendError (Node α) × NearbyRouter α :=
  match r.regions.get? region with
  | none => r.chooseEverywhere c
  | some table =>
    let (pick, table) := table.choose c
    let r := { r with regions := r.regions.insert region table }
    match pick with
    | .ok node => (.ok node, r)
    | .error _ => r.chooseEverywhere c

/-- A pick for a request that comes from a locality: from its zone, else from its region, else from
anywhere. -/
def chooseFrom (r : NearbyRouter α) (origin : Locality) (c : RouteContext) :
    Except BackendError (Node α) × NearbyRouter α :=
  match r.zones.get? origin with
  | none => r.chooseRegion origin.region c
  | some table =>
    let (pick, table) := table.choose c
    let r := { r with zones := r.zones.insert origin table }
    match pick with
    | .ok node => (.ok node, r)
    | .error _ => r.chooseRegion origin.region c

/-- A pick for a request that comes from where this process runs. -/
def choose (r : NearbyRouter α) (c : RouteContext) :
    Except BackendError (Node α) × NearbyRouter α :=
  r.chooseFrom r.here c

end NearbyRouter

end TrafficGateway
