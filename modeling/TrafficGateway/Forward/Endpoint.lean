import TrafficGateway.Forward.Error
import TrafficGateway.Http.Uri
import TrafficGateway.Instance
import TrafficGateway.Route.Comparator

/-!
# Endpoints

Where requests are sent: the scheme and the authority of a backend.

## Main definitions

* `Endpoint`: a scheme and an authority.
* `Endpoint.ofTarget`, `Endpoint.ofInstance`: the endpoint of a configured target and of an
  instance.
* `Endpoint.uri`: the address of a path there.
-/

namespace TrafficGateway

/-- The scheme and the authority of a backend. -/
structure Endpoint where
  scheme : String
  authority : String
  deriving DecidableEq, Repr, Inhabited

namespace Endpoint

/-- The scheme of a target that names none. -/
def defaultScheme : String := "http"

/-- The endpoint of an authority, by the default scheme. -/
def ofAuthority (authority : String) : Except ForwardError Endpoint :=
  match Authority.read authority with
  | some authority => .ok ⟨defaultScheme, authority⟩
  | none => .error .invalidAddress

/-- The endpoint of a configured target, which is an authority or an address with a scheme; of an
address only scheme and authority count. -/
def ofTarget (target : String) : Except ForwardError Endpoint :=
  if hasInfix "://".toList target.toList then
    match Uri.read target with
    | none => .error .invalidAddress
    | some uri =>
      match uri.authority with
      | some authority => .ok ⟨uri.scheme.getD defaultScheme, authority⟩
      | none => .error (.route (.invalid (.noAuthority target)))
  else ofAuthority target

/-- The endpoint of an instance. -/
def ofInstance (i : Instance) : Except ForwardError Endpoint :=
  ofAuthority i.authority

/-- The text of an endpoint. -/
def render (e : Endpoint) : String :=
  e.scheme ++ "://" ++ e.authority

/-- The address of a path with a query. -/
def uri (e : Endpoint) (target : String) : Except ForwardError Uri :=
  match PathAndQuery.readAbsolute target.toList with
  | some target => .ok { scheme := some e.scheme, authority := some e.authority, target }
  | none => .error .unsendable

end Endpoint

end TrafficGateway
