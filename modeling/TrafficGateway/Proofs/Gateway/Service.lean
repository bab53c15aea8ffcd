import TrafficGateway.Gateway.Service
import TrafficGateway.Proofs.Middleware.Chain

/-!
# Middleware leaves the answer alone

A service asks its middleware around every request that a route has claimed. Take the middleware away and
the service is the gateway with something behind it: what the gateway makes of a request by itself,
`Gateway.respond`, mentions no middleware at all. A service projects to it request by request
(`Service.serve_gateway`), and so does a whole run (`Service.after_gateway_congr`), whatever hooks do, for
none of them is given the gateway.

What remains is whom the middleware is asked about, and when: in turn before the route handles the request,
and in turn after it is known how that ended, each time up to the first that fails.

## Main definitions

* `Gateway.respond`: what a gateway makes of a request.
* `Service.Concludes`: what the client gets, and what the middleware is told of it.
* `Service.after`: a service after requests and whatever happens to its gateway between them.

## Main statements

* `Service.middleware_observes`: the answer, and everything that happens on the way.
-/

namespace TrafficGateway

/-- What a gateway makes of a request: nothing if no route claims it, otherwise what the transport of the
route gives. -/
def Gateway.respond (g : Gateway) (backends : Backends) (r : Request) :
    Option (Transport × Except ForwardError Response) × Gateway :=
  match g.find r.head.view with
  | (none, g) => (none, g)
  | (some t, g) => (some (t, (g.handle backends t r).1), (g.handle backends t r).2)

namespace Service

variable {σ : Type}

/-- What the client gets when a route has handled a request, and on which occasion the middleware is asked
then: a response with its status, or a line of text with the status of the failure. -/
inductive Concludes (errorBody : String) :
    Except ForwardError Response → Response → Occasion → Prop where
  | answered (response : Response) :
      Concludes errorBody (.ok response) response (.response response.status.code)
  | failed (e : ForwardError) :
      Concludes errorBody (.error e)
        { status := e.status
          headers := [("content-type", HeaderValue.ofText "text/plain; charset=utf-8")]
          body := [.data (errorBody ++ "\n").toUTF8.toList] }
        (.failure e.status.code e.message)

/-- What happens to a service: it serves a request, or something else changes its gateway, such as the time
or the registry. -/
inductive Step where
  | request (backends : Backends) (r : Request)
  | meanwhile (change : Gateway → Gateway)

/-- The service after a step. -/
def step (behind : Service σ → Request → Response) (s : Service σ) : Step → Service σ
  | .request backends r => (s.serve backends behind r).service
  | .meanwhile change => { s with gateway := change s.gateway }

/-- The service after some steps. -/
def after (behind : Service σ → Request → Response) (s : Service σ) (steps : List Step) : Service σ :=
  steps.foldl (step behind) s

/-- The service with its middleware taken away. -/
def withoutMiddleware (s : Service σ) : Service σ :=
  { s with chain := [] }

variable {s s' : Service σ} {behind : Service σ → Request → Response} {backends : Backends}
  {r : Request} {t : Transport}

/-! ## One request -/

theorem conclude_concludes (s : Service σ) (result : Except ForwardError Response) :
    Concludes s.errorBody result (s.conclude result).1 (s.conclude result).2 := by
  cases result with
  | ok response => exact .answered response
  | error e => exact .failed e

theorem Concludes.occasion_ne {errorBody : String} {result : Except ForwardError Response}
    {response : Response} {occasion : Occasion} (h : Concludes errorBody result response occasion) :
    occasion ≠ .request := by
  cases h with
  | answered response => exact nofun
  | failed e => exact nofun

theorem conclude_congr (h : s.errorBody = s'.errorBody) (result : Except ForwardError Response) :
    s.conclude result = s'.conclude result := by
  cases result with
  | ok response => rfl
  | error e => rw [conclude, conclude, h]

/-- A request that no route claims is left to what is behind the gateway. -/
theorem serve_of_unclaimed (h : (s.gateway.find r.head.view).1 = none) :
    s.serve backends behind r =
      { response := behind { s with gateway := (s.gateway.find r.head.view).2 } r
        events := [.passedThrough]
        service := { s with gateway := (s.gateway.find r.head.view).2 } } := by
  simp only [serve, h]

/-- A request that a route claims is handled by it. -/
theorem serve_of_claimed (h : (s.gateway.find r.head.view).1 = some t) :
    s.serve backends behind r =
      { s with gateway := (s.gateway.find r.head.view).2 }.serveRoute backends t r := by
  simp only [serve, h]

theorem respond_of_unclaimed {g : Gateway} (h : (g.find r.head.view).1 = none) :
    g.respond backends r = (none, (g.find r.head.view).2) := by
  rw [Gateway.respond]
  rcases hfind : g.find r.head.view with ⟨found, after⟩
  rw [hfind] at h
  obtain rfl : found = none := h
  rfl

theorem respond_of_claimed {g : Gateway} (h : (g.find r.head.view).1 = some t) :
    g.respond backends r =
      (some (t, ((g.find r.head.view).2.handle backends t r).1),
        ((g.find r.head.view).2.handle backends t r).2) := by
  rw [Gateway.respond]
  rcases hfind : g.find r.head.view with ⟨found, after⟩
  rw [hfind] at h
  obtain rfl : found = some t := h
  rfl

/-- The gateway of a service does what it would do by itself. -/
theorem serve_gateway (s : Service σ) (backends : Backends)
    (behind : Service σ → Request → Response) (r : Request) :
    (s.serve backends behind r).service.gateway = (s.gateway.respond backends r).2 := by
  cases hfound : (s.gateway.find r.head.view).1 with
  | none => rw [serve_of_unclaimed hfound, respond_of_unclaimed hfound]
  | some t =>
    rw [serve_of_claimed hfound, respond_of_claimed hfound]
    rfl

/-- Serving changes neither the middleware nor the text for requests that cannot be served. -/
theorem serve_settings (s : Service σ) (backends : Backends)
    (behind : Service σ → Request → Response) (r : Request) :
    (s.serve backends behind r).service.chain = s.chain ∧
      (s.serve backends behind r).service.errorBody = s.errorBody := by
  cases hfound : (s.gateway.find r.head.view).1 with
  | none =>
    rw [serve_of_unclaimed hfound]
    exact ⟨rfl, rfl⟩
  | some t =>
    rw [serve_of_claimed hfound]
    exact ⟨rfl, rfl⟩

theorem serveRoute_response (s : Service σ) (backends : Backends) (t : Transport) (r : Request) :
    (s.serveRoute backends t r).response = (s.conclude (s.gateway.handle backends t r).1).1 := rfl

/-- The middleware is asked about a request from the front, the route handles it, and the middleware is asked
from the back about what came of it. -/
theorem serveRoute_spec (s : Service σ) (backends : Backends) (t : Transport) (r : Request) :
    ∃ occasion before after,
      Concludes s.errorBody (s.gateway.handle backends t r).1
        (s.serveRoute backends t r).response occasion ∧
      MiddlewareChain.AskedInTurn s.chain (hookContext t r) .request
        (List.range s.chain.length) { world := s.world } before ∧
      MiddlewareChain.AskedInTurn s.chain (hookContext t r) occasion
        (List.range s.chain.length).reverse before.state after ∧
      (s.serveRoute backends t r).events = before.asked.map (.asked · .request) ++
        .handled :: after.asked.map (.asked · occasion) := by
  have hconcludes := s.conclude_concludes (s.gateway.handle backends t r).1
  let before := MiddlewareChain.run s.chain (hookContext t r) .request { world := s.world }
  let occasion := (s.conclude (s.gateway.handle backends t r).1).2
  let after := MiddlewareChain.run s.chain (hookContext t r) occasion before.state
  have hbefore := MiddlewareChain.run_askedInTurn s.chain (hookContext t r) .request
    { world := s.world }
  have hafter := MiddlewareChain.run_askedInTurn s.chain (hookContext t r) occasion before.state
  rw [MiddlewareChain.turns_of_ne_request hconcludes.occasion_ne] at hafter
  have hevents : (s.serveRoute backends t r).events =
      before.asked.map (.asked · .request) ++ [.handled] ++ after.asked.map (.asked · occasion) :=
    rfl
  rw [List.append_assoc] at hevents
  exact ⟨occasion, before, after, hconcludes, hbefore, hafter, hevents⟩

/-- Without middleware nothing happens but that the route handles the request. -/
theorem serveRoute_events_of_nil (h : s.chain = []) :
    (s.serveRoute backends t r).events = [.handled] := by
  obtain ⟨occasion, before, after, -, hbefore, hafter, hevents⟩ := s.serveRoute_spec backends t r
  rw [h] at hbefore hafter
  rw [hevents, hbefore.asked_of_nil, hafter.asked_of_nil]
  rfl

/-! ## Runs -/

theorem after_settings (behind : Service σ → Request → Response) (s : Service σ)
    (steps : List Step) :
    (s.after behind steps).chain = s.chain ∧ (s.after behind steps).errorBody = s.errorBody := by
  induction steps generalizing s with
  | nil => exact ⟨rfl, rfl⟩
  | cons st steps ih =>
    have hstep : (s.step behind st).chain = s.chain ∧ (s.step behind st).errorBody = s.errorBody := by
      cases st with
      | request backends r => exact s.serve_settings backends behind r
      | meanwhile change => exact ⟨rfl, rfl⟩
    obtain ⟨hchain, herrorBody⟩ := ih (s.step behind st)
    exact ⟨hchain.trans hstep.1, herrorBody.trans hstep.2⟩

/-- Services with the same gateway still have the same gateway after any run, whatever their middleware
does. -/
theorem after_gateway_congr (h : s.gateway = s'.gateway) (steps : List Step) :
    (s.after behind steps).gateway = (s'.after behind steps).gateway := by
  induction steps generalizing s s' with
  | nil => exact h
  | cons st steps ih =>
    have hstep : (s.step behind st).gateway = (s'.step behind st).gateway := by
      cases st with
      | request backends r => rw [step, step, serve_gateway, serve_gateway, h]
      | meanwhile change => exact congrArg change h
    exact ih hstep

/-- **Middleware observes and never alters.** After any run, with hooks that may fail or not as they like, a
request that no route claims goes to what is behind the gateway, and nothing is asked. A request that a
route claims gets the answer that the same service without middleware, after the same run, gives, which is
what the route makes of it; and what happens is that the middleware is asked about the request from the
front, then the route handles it, once, then the middleware is asked from the back about the response with
its status, or about the failure with its status and its message, each time up to the first that fails. -/
theorem middleware_observes (s : Service σ) (behind : Service σ → Request → Response)
    (steps : List Step) (backends : Backends) (r : Request) :
    let now := s.after behind steps
    let served := now.serve backends behind r
    let plain := (s.withoutMiddleware.after behind steps).serve backends behind r
    served.service.gateway = (now.gateway.respond backends r).2 ∧
      plain.service.gateway = served.service.gateway ∧
      match (now.gateway.respond backends r).1 with
      | none =>
        served.response = behind served.service r ∧ served.events = [.passedThrough] ∧
          served.service.world = now.world
      | some (t, result) =>
        served.response = plain.response ∧ plain.events = [.handled] ∧
          ∃ occasion before after,
            Concludes s.errorBody result served.response occasion ∧
            MiddlewareChain.AskedInTurn s.chain (hookContext t r) .request
              (List.range s.chain.length) { world := now.world } before ∧
            MiddlewareChain.AskedInTurn s.chain (hookContext t r) occasion
              (List.range s.chain.length).reverse before.state after ∧
            served.events = before.asked.map (.asked · .request) ++
              .handled :: after.asked.map (.asked · occasion) := by
  intro now served plain
  -- The two services differ in their chain alone, and nothing of it ever reaches a gateway.
  have hsame : s.withoutMiddleware.gateway = s.gateway := rfl
  have hgateway : (s.withoutMiddleware.after behind steps).gateway = now.gateway :=
    after_gateway_congr hsame steps
  obtain ⟨hchain, herrorBody⟩ : now.chain = s.chain ∧ now.errorBody = s.errorBody :=
    after_settings behind s steps
  obtain ⟨hplainChain, hplainBody⟩ := after_settings behind s.withoutMiddleware steps
  refine ⟨serve_gateway now backends behind r, ?_, ?_⟩
  · rw [serve_gateway, serve_gateway, hgateway]
  cases hfound : (now.gateway.find r.head.view).1 with
  | none =>
    rw [respond_of_unclaimed hfound]
    have hserved : served = _ := serve_of_unclaimed hfound
    rw [hserved]
    exact ⟨rfl, rfl, rfl⟩
  | some t =>
    have hplain : plain = _ := serve_of_claimed (hgateway ▸ hfound)
    have hserved : served = _ := serve_of_claimed hfound
    rw [respond_of_claimed hfound]
    dsimp only
    have hobserved :=
      { now with gateway := (now.gateway.find r.head.view).2 }.serveRoute_spec backends t r
    refine ⟨?_, ?_, ?_⟩
    · rw [hserved, hplain, serveRoute_response, serveRoute_response, hgateway]
      exact congrArg Prod.fst (conclude_congr (herrorBody.trans hplainBody.symm) _)
    · rw [hplain]
      exact serveRoute_events_of_nil hplainChain
    · rw [← hserved, hchain, herrorBody] at hobserved
      exact hobserved

end Service

end TrafficGateway
