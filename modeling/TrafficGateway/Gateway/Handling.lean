import TrafficGateway.Forward.Exchange
import TrafficGateway.Gateway.Registration

/-!
# Handling claimed requests

A request that a route has claimed is answered by the route itself, or sent on to a backend: as a
stream if its content says so, otherwise with retries.

## Main definitions

* `Gateway.resolve`: a backend for a request.
* `Gateway.handle`: what the client gets, and the gateway after it.
-/

namespace TrafficGateway

namespace Gateway

/-- A backend from the selector in a place. -/
def resolveFixed (g : Gateway) (place : Nat) (c : RouteContext) :
    Except ForwardError Endpoint × Gateway :=
  match g.selectors[place]? with
  | none => (.error (.backend .noNodes), g)
  | some s =>
    let (pick, s) := s.select c.hashKey
    ((pick.map (·.data)).mapError .backend, { g with selectors := g.selectors.set place s })

/-- A backend from the table of a service, which is fetched if there is no fresh one. -/
def resolveDiscovered (g : Gateway) (kind : SelectorKind) (service : String) (c : RouteContext) :
    Except ForwardError Endpoint × Gateway :=
  match g.discovery.load kind service with
  | (none, discovery) => (.error (.backend .noNodes), { g with discovery })
  | (some (.error e), discovery) => (.error (.backend e), { g with discovery })
  | (some (.ok table), discovery) =>
    match discovery.chooseFrom kind table c with
    | (none, discovery) => (.error (.backend .noNodes), { g with discovery })
    | (some pick, discovery) =>
      ((pick.mapError .backend).bind Endpoint.ofInstance, { g with discovery })

/-- A backend for a request. -/
def resolve (source : BackendSource) : Resolve Gateway := fun c g =>
  match source with
  | .fixed place => g.resolveFixed place c
  | .discovered kind service => g.resolveDiscovered kind service c

/-- What a route makes of a request. -/
def handle (g : Gateway) (backends : Backends) (t : Transport) (r : Request) :
    Except ForwardError Response × Gateway :=
  match t.target with
  | .mock spec => (.ok spec.respond, g)
  | .forward source _ =>
    let context := t.context g.options.versionHeader r.head.headers
    if isStreamingCall r.head.headers then
      StreamingCall.run r t.pathRule context (resolve source) backends g
    else
      let forwarded := r.forward t.pathRule context source.isDiscovered g.options.traffic.retry
        (resolve source) backends g
      (forwarded.result, forwarded.state)

end Gateway

end TrafficGateway
