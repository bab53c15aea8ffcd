import TrafficGateway.Balance.Error
import TrafficGateway.Http.Status
import TrafficGateway.Route.Error

/-!
# Why a request could not be served

The failures of a request that a route has claimed, the report of each and the status that the
client gets.

## Main definitions

* `ForwardError`: the causes.
* `ForwardError.message`: the report.
* `ForwardError.status`: what the client is told.
* `ForwardError.summary?`, `ForwardError.toDocument`: the report for logs.
-/

namespace TrafficGateway

/-- Why a request could not be served. -/
inductive ForwardError where
  /-- No backend could be chosen. -/
  | backend (error : BackendError)
  /-- The route was refused. -/
  | route (error : RouteError)
  /-- The exchange with the backend failed with a status. -/
  | exchange (status : Status) (detail : String)
  /-- The backend did not answer in time. -/
  | timeout
  /-- A stream broke. -/
  | stream (reason : String)
  /-- The address of the backend cannot be read. -/
  | invalidAddress
  /-- No request can be made of the parts. -/
  | unsendable
  /-- The body of the request broke off. -/
  | body (reason : String)
  deriving DecidableEq, Repr, Inhabited

namespace ForwardError

/-- The report of a failure. -/
def message : ForwardError → String
  | backend e => e.message
  | route e => e.message
  | exchange status detail => "Upstream returned " ++ status.describe ++ ": " ++ detail
  | timeout => "Upstream request timed out"
  | stream reason => "Stream proxy failed: " ++ reason
  | invalidAddress => "Invalid upstream URI"
  | unsendable => "HTTP error"
  | body reason => "Failed to read request body: " ++ reason

/-- The status that the client gets. A status of the exchange is passed on only if it blames a
server. -/
def status : ForwardError → Status
  | backend .noNodes => .unavailable
  | backend (.unavailable ..) => .unavailable
  | backend _ => .internalError
  | route _ => .internalError
  | unsendable => .internalError
  | exchange status _ => if status.isServerError then status else .badGateway
  | timeout => .gatewayTimeout
  | body _ => .badRequest
  | stream _ => .badGateway
  | invalidAddress => .badGateway

/-- What reports call the kind of failure. -/
def kind : ForwardError → String
  | backend e => e.kind
  | route e => e.kind
  | exchange .. => "Upstream"
  | timeout => "Timeout"
  | stream _ => "Stream"
  | invalidAddress => "InvalidUri"
  | unsendable => "Http"
  | body _ => "Body"

/-- The part of the report that is the same wherever the failure was noticed; an address or a request
that cannot be made has none. -/
def summary? : ForwardError → Option String
  | exchange status _ => some ("Upstream returned " ++ status.describe)
  | invalidAddress => none
  | unsendable => none
  | e => some e.message

/-- The written form, without what differs from place to place. -/
def toDocument (e : ForwardError) : Document :=
  .failure e.kind e.summary?

end ForwardError

end TrafficGateway
