import TrafficGateway.Document

/-!
# Why no backend could be chosen

The failures of load balancing and of service discovery, and the sentence that reports each.

## Main definitions

* `BackendError`: the causes.
* `BackendError.message`: the report.
* `BackendError.toDocument`: the report with the kind of failure.
-/

namespace TrafficGateway

/-- Why no backend could be chosen for a request. -/
inductive BackendError where
  /-- There is no node to choose from. -/
  | noNodes
  /-- A node has a weight that its selector cannot use. -/
  | invalidWeight (node : String) (weight : Nat)
  /-- Nothing is known of a service and asking for it failed. -/
  | unavailable (service : String) (reason : String)
  /-- The registry refused or failed. -/
  | registry (reason : String)
  /-- A part of the gateway was put together wrongly. -/
  | internal (reason : String)
  deriving DecidableEq, Repr, Inhabited

namespace BackendError

/-- The sentence that reports the failure. -/
def message : BackendError → String
  | .noNodes => "No nodes available"
  | .invalidWeight node weight => "Invalid weight " ++ toString weight ++ " for node " ++ node
  | .unavailable service reason => "Service unavailable: " ++ service ++ ": " ++ reason
  | .registry reason => "Registry error: " ++ reason
  | .internal reason => "Internal error: " ++ reason

/-- What reports call the kind of failure. -/
def kind : BackendError → String
  | .noNodes => "EmptyNodes"
  | .invalidWeight .. => "InvalidWeight"
  | .unavailable .. => "ServiceUnavailable"
  | .registry _ => "Registry"
  | .internal _ => "Internal"

/-- The written form. -/
def toDocument (e : BackendError) : Document :=
  .failure e.kind (some e.message)

end BackendError

end TrafficGateway
