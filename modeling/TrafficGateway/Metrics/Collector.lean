import TrafficGateway.Discovery.Cache
import TrafficGateway.Metrics.Exposition
import TrafficGateway.Metrics.Tally
import TrafficGateway.Middleware.Hook

/-!
# Metrics of the gateway

What the gateway counts: the requests that routes have claimed, how long each took until its end was
known, the failures, and the refreshes of discovered tables.

## Main definitions

* `Metrics`: the counts.
* `Metrics.observe`: what an occasion of a request adds.
* `Metrics.families`: the counts as they are handed out.
* `Middleware.metrics`: the middleware that counts.
-/

namespace TrafficGateway

/-- What is counted: requests by route and type of target, observed durations by route, failures by
route and status, refreshes by service and outcome. -/
structure Metrics where
  requests : Tally (String × TargetType) := .empty
  durations : Tally String := .empty
  failures : Tally (String × Nat) := .empty
  refreshes : Tally (String × RefreshOutcome) := .empty

namespace Metrics

instance : Inhabited Metrics := ⟨{}⟩

/-- What an occasion of a request adds. -/
def observe (m : Metrics) (context : HookContext) : Occasion → Metrics
  | .request => { m with requests := m.requests.add (context.route, context.targetType) }
  | .response _ => { m with durations := m.durations.add context.route }
  | .failure status _ =>
    { m with
      failures := m.failures.add (context.route, status)
      durations := m.durations.add context.route }

/-- What a refresh adds. -/
def refreshed (m : Metrics) (refresh : String × RefreshOutcome) : Metrics :=
  { m with refreshes := m.refreshes.add refresh }

/-- The counts as they are handed out. -/
def families (m : Metrics) : List MetricFamily :=
  [⟨"gateway_requests_total", "Total routed requests", .counter,
      m.requests.entries.map fun e => ([("route", e.1.1), ("target_type", e.1.2.name)], e.2)⟩,
    ⟨"gateway_upstream_errors_total", "Routed requests that ended in a gateway error", .counter,
      m.failures.entries.map fun e => ([("route", e.1.1), ("status", toString e.1.2)], e.2)⟩,
    ⟨"gateway_request_duration_seconds", "Time until the response head was ready, in seconds",
      .histogram, m.durations.entries.map fun e => ([("route", e.1)], e.2)⟩,
    ⟨"discovery_refresh_total", "Discovery cache refreshes", .counter,
      m.refreshes.entries.map fun e => ([("outcome", e.1.2.name), ("service", e.1.1)], e.2)⟩]

/-- The text in which the counts are handed out. -/
def exposition (m : Metrics) : List String :=
  MetricFamily.exposition m.families

end Metrics

/-- The middleware that counts what it is told, in a part of the world. -/
def Middleware.metrics {σ : Type} (count : (Metrics → Metrics) → σ → σ) : Middleware σ where
  hook context occasion :=
    modify fun s => { s with world := count (fun m => m.observe context occasion) s.world }

end TrafficGateway
