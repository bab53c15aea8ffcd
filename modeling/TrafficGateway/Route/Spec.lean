import TrafficGateway.Http.Headers
import TrafficGateway.Json.Reader
import TrafficGateway.Route.Config
import TrafficGateway.Route.Kind

/-!
# Validated routes

A route whose description has been checked: its choices are known, and what each of them needs is
there. The check refuses at the first fault, in the order match, target, path rule.

## Main definitions

* `RouteMatcher`, `RouteTarget`, `PathRule`, `RouteSpec`: a validated route and its parts.
* `ExprConfig.validate`: the shape of an expression.
* `RouteConfig.validate`: the check of a description.
-/

namespace TrafficGateway


/-- How a validated route recognises its requests. -/
inductive RouteMatcher where
  | full
  | leading
  | expression (expr : ExprConfig)
  deriving Repr, Inhabited

/-- The kind of match. -/
def RouteMatcher.matchType : RouteMatcher → MatchType
  | .full => .full
  | .leading => .leading
  | .expression _ => .expression

/-- The change of the path before a request is sent on. -/
inductive PathRule where
  | copyFullPath
  /-- Take the path of the route away from the front. -/
  | stripPrefix (path : String)
  /-- Send every request to one path. -/
  | replaceAny (path : String)
  deriving DecidableEq, Repr, Inhabited

/-- The fixed answer of a validated mock route. -/
structure MockSpec where
  contentType : ContentType
  statusCode : UInt16
  body : String
  deriving DecidableEq, Repr, Inhabited

/-- Where a validated route sends its requests. -/
inductive RouteTarget where
  | discovery (service : String) (policy : BalancePolicy) (hashHeader : Option String)
  | domain (targets : List TargetConfig) (policy : BalancePolicy) (hashHeader : Option String)
  | mock (spec : MockSpec)
  deriving DecidableEq, Repr, Inhabited

/-- The kind of target. -/
def RouteTarget.targetType : RouteTarget → TargetType
  | .discovery .. => .discovery
  | .domain .. => .domain
  | .mock _ => .mock

/-- A route whose description has been checked. -/
structure RouteSpec where
  matcher : RouteMatcher
  path : String
  priority : Int32
  target : RouteTarget
  pathRule : PathRule
  deriving Repr, Inhabited

namespace ExprConfig

mutual

/-- Checks the shape of an expression: a leaf names a source and an operator, an inner node has
exactly one kind of children and is no comparison. -/
def validate : ExprConfig → Except RouteError Unit
  | ⟨source, _, operator, _, all, any⟩ =>
    match all, any with
    | [], [] =>
      if source.isEmpty || operator.isEmpty then .error (.invalid .incompleteLeaf) else .ok ()
    | _ :: _, _ :: _ => .error (.invalid .conflictingChildren)
    | all, any =>
      if !source.isEmpty || !operator.isEmpty then .error (.invalid .comparisonWithChildren)
      else do
        validateAll all
        validateAll any

/-- Checks the shape of expressions, up to the first fault. -/
def validateAll : List ExprConfig → Except RouteError Unit
  | [] => .ok ()
  | e :: es => do
    validate e
    validateAll es

end

end ExprConfig

namespace TargetConfig

/-- Checks a fixed address: it is not empty and has weight. -/
def validate (t : TargetConfig) : Except RouteError Unit :=
  if t.target.isEmpty then .error (.invalid .emptyTarget)
  else if t.weight = 0 then .error (.invalid (.unweightedTarget t.target))
  else .ok ()

/-- Checks fixed addresses, up to the first fault. -/
def validateAll : List TargetConfig → Except RouteError Unit
  | [] => .ok ()
  | t :: ts => do
    t.validate
    validateAll ts

end TargetConfig

/-- Checks a fixed answer: its content is of a known kind, what claims to be JSON is, and its
status is between 100 and 599. -/
def MockContent.validate (m : MockContent) : Except RouteError MockSpec := do
  let contentType ← ContentType.ofName m.contentType
  match contentType, Json.read m.body with
  | .json, .error _ => .error (.invalid .mockNotJson)
  | _, _ =>
    if 100 ≤ m.statusCode.toNat ∧ m.statusCode.toNat ≤ 599 then
      return { contentType, statusCode := m.statusCode, body := m.body }
    else .error (.invalid (.mockStatus m.statusCode.toNat))

namespace RouteConfig

/-- The check of how a route recognises its requests. -/
def validateMatch (r : RouteConfig) : Except RouteError RouteMatcher := do
  let byPath (matcher : RouteMatcher) : Except RouteError RouteMatcher :=
    match r.path.toList with
    | [] => .error (.invalid .missingPath)
    | '/' :: _ => .ok matcher
    | _ => .error (.invalid (.relativePath r.path))
  match ← MatchType.ofName r.matchType with
  | .full => byPath .full
  | .leading => byPath .leading
  | .expression =>
    match r.expr with
    | none => .error (.invalid .missingExpression)
    | some expr =>
      expr.validate
      return .expression expr

/-- The check of where a route sends its requests. -/
def validateTarget (r : RouteConfig) : Except RouteError RouteTarget := do
  let targetType ← TargetType.ofName r.targetType
  let policy ← BalancePolicy.ofName r.policy
  let hashHeader := if r.hashHeader.isEmpty then none else some (asciiLower r.hashHeader)
  match targetType with
  | .discovery =>
    if r.serviceName.isEmpty then .error (.invalid .missingService)
    else return .discovery r.serviceName policy hashHeader
  | .domain =>
    if r.targets.isEmpty then .error (.invalid .noTargets)
    else
      TargetConfig.validateAll r.targets
      return .domain r.targets policy hashHeader
  | .mock =>
    match r.mock with
    | none => .error (.invalid .missingMock)
    | some mock => return .mock (← mock.validate)

/-- The check of how a route changes paths. -/
def validatePathRule (r : RouteConfig) (matcher : RouteMatcher) : Except RouteError PathRule := do
  match ← PathRuleKind.ofName r.pathRule with
  | .copyFullPath => return .copyFullPath
  | .stripPrefix =>
    if matcher.matchType = .expression then .error (.invalid .noPathToStrip)
    else return .stripPrefix r.path
  | .replaceAny =>
    if r.replacePath.isEmpty then .error (.invalid .missingReplacement)
    else return .replaceAny r.replacePath

/-- The check of a description. -/
def validate (r : RouteConfig) : Except RouteError RouteSpec := do
  let matcher ← r.validateMatch
  let target ← r.validateTarget
  let pathRule ← r.validatePathRule matcher
  return { matcher, path := r.path, priority := r.priority, target, pathRule }

end RouteConfig

end TrafficGateway
