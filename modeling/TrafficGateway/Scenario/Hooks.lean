import TrafficGateway.Forward.Error
import TrafficGateway.Http.Written
import TrafficGateway.Metrics.Collector
import TrafficGateway.Scenario.Step

/-!
# Middleware in scenarios

Middleware that logs what it is told and fails where it is told to, and steps on a chain of
middleware and on metrics.

## Main definitions

* `Scenario.HookWorld`: the log and the metrics.
* `Scenario.scripted`: the middleware that logs and fails.
* `Scenario.chainOf`: a written chain.
* `Scenario.hookStep`, `Scenario.metricsStep`: steps.
-/

namespace TrafficGateway

namespace Scenario

/-- What the hooks of a scenario report to: the log of this step, and the metrics. -/
structure HookWorld where
  events : List String := []
  metrics : Metrics := {}

/-- The text before the first occurrence of a mark, or all of it. -/
def textBefore (mark : String) (s : String) : String :=
  (s.splitOn mark).headD s

/-- The message of a failure as far as it is the same wherever the failure was noticed. -/
def commonMessage (message : String) : String :=
  let begins (start : ForwardError) : Bool :=
    start.message.toList.isPrefixOf message.toList
  if begins .invalidAddress || begins .unsendable then "-"
  else if "Upstream returned ".toList.isPrefixOf message.toList then textBefore ": " message
  else message

/-- The name of an occasion and what the log says of it. -/
def occasionEntry (context : HookContext) (seen : String) : Occasion → String × List String
  | .request =>
    ("request",
      [context.method, context.path, context.route, context.targetType.name, "seen=" ++ seen])
  | .response status => ("response", [context.route, toString status, "seen=" ++ seen])
  | .failure status message => ("error", [context.route, toString status, commonMessage message])

/-- The middleware with a label that logs each occasion, notes its label when a request comes, and
fails on some occasions. -/
def scripted (label : String) (failing : List String) : Middleware HookWorld where
  hook context occasion := do
    let s ← get
    let seen := (s.notes.get? "seen").getD ""
    let (name, entry) := occasionEntry context seen occasion
    let line := String.intercalate " " (label :: name :: entry)
    let notes := match occasion with
      | .request => s.notes.insert "seen" (seen ++ label)
      | _ => s.notes
    set { s with notes, world.events := s.world.events ++ [line] }
    if failing.contains name then throw (label ++ " rejected " ++ name)

/-- A written middleware. -/
def middlewareOf (d : Document) : Middleware HookWorld :=
  match optStr d "type" with
  | some "metrics" => .metrics fun change w => { w with metrics := change w.metrics }
  | some _ => .silent
  | none => scripted (str d "label") ((items d "fail").map textOf)

/-- The written chain under a name. -/
def chainOf (d : Document) (name : String) : List (Middleware HookWorld) :=
  (items d name).map middlewareOf

/-- The type of target that a document gives. -/
def targetTypeOf (d : Document) : Except Document TargetType := do
  return ← TargetType.ofName ((optStr d "target_type").getD TargetType.domain.name)

/-- What hooks are told: the method and the path of a request, or those that are written. -/
def hookContextOf (d : Document) : Except Document HookContext := do
  let (method, path) ← match optStr d "uri" with
    | some _ => do
      let r ← orElse invalidRequest (RequestHead.ofDocument d)
      pure (r.method, r.uri.path)
    | none => pure (str d "method", str d "path")
  return { method, path, route := str d "route", targetType := ← targetTypeOf d }

/-- The occasion that a step stands for. -/
def occasionOf? (step : Document) : Option Occasion :=
  let status := nat step "status" 200
  match str step "op" with
  | "request" => some .request
  | "response" => some (.response status)
  | "error" => some (.failure status (str step "error"))
  | _ => none

/-- A step on a chain, and what was logged during it. -/
def hookStep (chain : List (Middleware HookWorld)) (context : HookContext) (step : Document) :
    StateM (HookState HookWorld) Document := do
  let s ← get
  let key := str step "key"
  let (r, after) := match occasionOf? step, str step "op" with
    | some occasion, _ =>
      let run := MiddlewareChain.run chain context occasion s
      ((run.refusal.map fun reason => Document.failure "Middleware" (some reason)).getD ok, run.state)
    | none, "set" => (ok, { s with notes := s.notes.insert key (str step "value") })
    | none, "get" => (optText (s.notes.get? key), s)
    | none, _ => (badInput "step", s)
  set { after with world.events := [] }
  return obj [("r", r), ("events", .texts after.world.events)]

/-- The steps on a written chain. -/
def hookAnswer (d : Document) : Op := do
  let context ← hookContextOf (field d "context")
  let chain := chainOf d "chain"
  return obj
    [("len", .nat chain.length), ("is_empty", .bool chain.isEmpty),
      ("steps", runSteps (hookStep chain context) d "steps" { world := {} })]

/-- The refresh that a step gives. -/
def refreshOf (step : Document) : String × RefreshOutcome :=
  (str step "service", (RefreshOutcome.ofName? (str step "outcome")).getD .failed)

/-- A step on metrics. -/
def metricsStep (step : Document) : StateM Metrics Document := do
  match occasionOf? step, str step "op" with
  | some occasion, _ =>
    match targetTypeOf step with
    | .error e => return e
    | .ok targetType =>
      let context : HookContext :=
        { method := "GET", path := "/", route := str step "route", targetType }
      modify fun m => m.observe context occasion
      return .bool true
  | none, "refresh" =>
    modify fun m => m.refreshed (refreshOf step)
    return .bool true
  | none, "gather" => return .texts (← get).exposition
  | none, _ => return badInput "step"

end Scenario

end TrafficGateway
