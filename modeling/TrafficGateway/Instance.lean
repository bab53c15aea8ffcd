import TrafficGateway.Document.Decode

/-!
# Instances

A backend address as a registry reports it, with the tags that routing looks at.

## Main definitions

* `Instance`: an address with weight, version, region and zone.
* `Instance.normalizedVersion`, `Instance.authority`: its version tag and its `address:port`.
* `Instance.sort`: instances in the order of their fields.
* `Instance.ofDocument`, `Instance.toDocument`: its written form.
-/

namespace TrafficGateway

/-- The version of an instance without a version tag, and the name of the partition that holds
every instance. -/
def defaultVersion : String := "default"

/-- A backend address with the tags that routing looks at. An empty tag is an unknown one. -/
structure Instance where
  address : String
  port : UInt16
  weight : UInt32 := 1
  version : String := ""
  region : String := ""
  zone : String := ""
  deriving DecidableEq, Repr, Inhabited

namespace Instance

/-- The version tag, with the default in place of an empty one. -/
def normalizedVersion (i : Instance) : String :=
  if i.version.isEmpty then defaultVersion else i.version

/-- The instance with its normalized version as its tag. -/
def normalize (i : Instance) : Instance :=
  { i with version := i.normalizedVersion }

/-- The address and the port, by which an instance is known and called. -/
def authority (i : Instance) : String :=
  i.address ++ ":" ++ toString i.port.toNat

/-- The order of the fields in their declaration: the address first, texts by code points. -/
instance : Ord Instance where
  compare a b :=
    (compare a.address b.address).then <|
      (compare a.port.toNat b.port.toNat).then <|
        (compare a.weight.toNat b.weight.toNat).then <|
          (compare a.version b.version).then <|
            (compare a.region b.region).then (compare a.zone b.zone)

/-- The instances in the order of their fields. -/
def sort (is : List Instance) : List Instance :=
  is.mergeSort fun a b => (compare a b).isLE

/-- The names of the fields, in the order of their declaration. -/
def fieldNames : List String :=
  ["address", "port", "weight", "version", "region", "zone"]

/-- Reads an instance: address and port are required, the weight is one and the tags are empty where
they are missing. -/
def ofDocument (d : Document) : Except DecodeError Instance := do
  let r ← d.asRecord fieldNames
  let address ← r.required "address" Document.asText
  let port ← r.required "port" (Document.asNat UInt16.size)
  let weight ← r.withDefault "weight" 1 (Document.asNat UInt32.size)
  let version ← r.withDefault "version" "" Document.asText
  let region ← r.withDefault "region" "" Document.asText
  let zone ← r.withDefault "zone" "" Document.asText
  return { address, port := .ofNat port, weight := .ofNat weight, version, region, zone }

/-- The written form, with every field. -/
def toDocument (i : Instance) : Document :=
  .table
    [("address", .text i.address), ("port", .nat i.port.toNat), ("weight", .nat i.weight.toNat),
      ("version", .text i.version), ("region", .text i.region), ("zone", .text i.zone)]

end Instance

end TrafficGateway
