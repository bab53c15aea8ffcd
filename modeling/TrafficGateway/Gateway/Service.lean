import TrafficGateway.Gateway.Handling
import TrafficGateway.Metrics.Collector
import TrafficGateway.Middleware.Hook

/-!
# The gateway as a service

Requests that a route claims are handled, with middleware around them; all others go to another
service behind the gateway. What middleware does leaves the answer alone.

## Main definitions

* `Service`: a gateway with its middleware.
* `ServiceEvent`: what happens while a request is served.
* `Service.serve`: the answer, what happened, and the service after it.
* `Behind.notFound`, `Behind.admin`: services behind the gateway.
-/

namespace TrafficGateway

/-- What clients are told when a claimed request cannot be served. -/
def defaultErrorBody : String := "upstream unavailable"

/-- A gateway with its middleware, the text for requests that cannot be served, and the world that
middleware reports to. -/
structure Service (σ : Type) where
  gateway : Gateway
  chain : List (Middleware σ) := []
  errorBody : String := defaultErrorBody
  world : σ

/-- What happens while a request is served: a middleware is asked, the route handles the request, or
the service behind the gateway answers. -/
inductive ServiceEvent where
  | asked (position : Nat) (occasion : Occasion)
  | handled
  | passedThrough
  deriving DecidableEq, Repr

/-- The answer to a request, what happened, and the service after it. -/
structure Served (σ : Type) where
  response : Response
  events : List ServiceEvent
  service : Service σ

namespace Service

variable {σ : Type}

/-- What is said to the client and to the middleware when a route has handled a request. -/
def conclude (s : Service σ) : Except ForwardError Response → Response × Occasion
  | .ok response => (response, .response response.status.code)
  | .error e => (Response.failure e.status s.errorBody, .failure e.status.code e.message)

/-- What hooks are told of a request that a transport handles. -/
def hookContext (t : Transport) (r : Request) : HookContext :=
  { method := r.head.method, path := r.head.uri.path, route := t.name, targetType := t.targetType }

/-- Handles a claimed request, with middleware around it. -/
def serveRoute (s : Service σ) (backends : Backends) (t : Transport) (r : Request) : Served σ :=
  let context := hookContext t r
  let before := MiddlewareChain.run s.chain context .request { world := s.world }
  let (result, gateway) := s.gateway.handle backends t r
  let (response, occasion) := s.conclude result
  let after := MiddlewareChain.run s.chain context occasion before.state
  { response
    events :=
      before.asked.map (.asked · .request) ++ [.handled] ++ after.asked.map (.asked · occasion)
    service := { s with gateway, world := after.state.world } }

/-- Serves a request. -/
def serve (s : Service σ) (backends : Backends) (behind : Service σ → Request → Response)
    (r : Request) : Served σ :=
  let (found, gateway) := s.gateway.find r.head.view
  let s := { s with gateway }
  match found with
  | some t => s.serveRoute backends t r
  | none => { response := behind s r, events := [.passedThrough], service := s }

end Service

/-! ### Behind the gateway -/

namespace Behind

/-- The answer to requests for which there is nothing. -/
def notFound : Response :=
  .failure .notFound "no route"

/-- The media type of metrics. -/
def metricsType : String := "text/plain; version=0.0.4"

/-- The state of the process, and its metrics, for those who run it. -/
def admin (metrics : List String) (path : String) : Response :=
  match path with
  | "/healthz" => .ofText .ok Response.plainText "OK\n"
  | "/metrics" => .ofText .ok metricsType (String.join (metrics.map fun line => line ++ "\n"))
  | _ => notFound

end Behind

end TrafficGateway
