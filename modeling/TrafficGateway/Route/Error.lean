import TrafficGateway.Document
import TrafficGateway.Text.Quoted

/-!
# Why a route is refused

Each refusal concerns a single route; the other routes of a gateway are not affected.

## Main definitions

* `RouteFault`: what is wrong with the description of a route.
* `RouteError`: a fault, or a name that the gateway does not know.
* `RouteFault.message`, `RouteError.message`: the reports.
* `RouteError.toDocument`: the report with the kind of refusal.
-/

namespace TrafficGateway

/-- What is wrong with the description of a route. -/
inductive RouteFault where
  /-- The kind of match has no such name. -/
  | unknownMatchType (name : String)
  /-- The load balancing policy has no such name. -/
  | unknownPolicy (name : String)
  /-- The kind of path rule has no such name. -/
  | unknownPathRule (name : String)
  /-- The kind of content has no such name. -/
  | unknownContentType (name : String)
  /-- A route that matches by expression has none. -/
  | missingExpression
  /-- A route that matches by path has none. -/
  | missingPath
  /-- The path does not start at the root. -/
  | relativePath (path : String)
  /-- A discovery target names no service. -/
  | missingService
  /-- A domain target has no targets. -/
  | noTargets
  /-- A domain target has an empty address. -/
  | emptyTarget
  /-- A domain target is an address without an authority. -/
  | noAuthority (target : String)
  /-- A domain target would never be chosen. -/
  | unweightedTarget (target : String)
  /-- A mock target has no content. -/
  | missingMock
  /-- The content of a mock target claims to be JSON and is not. -/
  | mockNotJson
  /-- The status of a mock target is no final or informational status. -/
  | mockStatus (status : Nat)
  /-- There is no prefix to strip. -/
  | noPathToStrip
  /-- There is no path to replace the whole path by. -/
  | missingReplacement
  /-- A comparison names no source or no operator. -/
  | incompleteLeaf
  /-- An expression has conjuncts and disjuncts. -/
  | conflictingChildren
  /-- An expression has children and a comparison. -/
  | comparisonWithChildren
  /-- A source needs a key and has none. -/
  | missingKey (source : String)
  /-- The modulus in a key is no positive number. -/
  | badModulus (key : String)
  /-- A pattern is no regular expression. -/
  | badPattern (pattern : String)
  /-- Another route matches exactly this path. -/
  | duplicateExact (path : String)
  /-- Another route matches this prefix. -/
  | duplicatePrefix (path : String)
  /-- An extension refuses the route in its own words. -/
  | refused (reason : String)
  deriving DecidableEq, Repr, Inhabited

/-- The report of a fault. -/
def RouteFault.message : RouteFault → String
  | .unknownMatchType name => "unknown matchType " ++ quoted name
  | .unknownPolicy name => "unknown targetLbPolicy " ++ quoted name
  | .unknownPathRule name => "unknown rewriteType " ++ quoted name
  | .unknownContentType name => "unknown mock contentType " ++ quoted name
  | .missingExpression => "exprMatch route requires expr"
  | .missingPath => "path is required for fullMatch and prefixMatch routes"
  | .relativePath path => "path " ++ quoted path ++ " must start with '/'"
  | .missingService => "discovery target requires serviceName"
  | .noTargets => "domain target requires at least one target"
  | .emptyTarget => "domain target address must not be empty"
  | .noAuthority target => "target " ++ quoted target ++ " has no authority"
  | .unweightedTarget target => "domain target " ++ target ++ " has weight 0"
  | .missingMock => "mock target requires mockContent"
  | .mockNotJson => "mock respStr is not JSON"
  | .mockStatus status => "mock statusCode " ++ toString status ++ " out of range"
  | .noPathToStrip => "stripPrefix needs a registered path"
  | .missingReplacement => "replaceAny requires replacePath"
  | .incompleteLeaf => "expression leaf requires source and operator"
  | .conflictingChildren => "expression node cannot have both and/or children"
  | .comparisonWithChildren => "expression node mixes a comparison with children"
  | .missingKey source => source ++ " fetcher requires a key"
  | .badModulus key => "invalid hash modulus in " ++ quoted key
  | .badPattern pattern => "invalid regex " ++ quoted pattern
  | .duplicateExact path => "duplicate fullMatch route for " ++ path
  | .duplicatePrefix path => "duplicate prefixMatch route for " ++ path
  | .refused reason => reason

/-- Why a route is refused. -/
inductive RouteError where
  | unsupportedOperator (name : String)
  | unsupportedTargetType (name : String)
  | unsupportedSource (name : String)
  | invalid (fault : RouteFault)
  deriving DecidableEq, Repr, Inhabited

namespace RouteError

/-- The report of a refusal. -/
def message : RouteError → String
  | .unsupportedOperator name => "Unsupported operator: " ++ name
  | .unsupportedTargetType name => "Unsupported target type: " ++ name
  | .unsupportedSource name => "Unsupported fetcher source: " ++ name
  | .invalid fault => "Invalid route configuration: " ++ fault.message

/-- What reports call the kind of refusal. -/
def kind : RouteError → String
  | .unsupportedOperator _ => "UnsupportedOperator"
  | .unsupportedTargetType _ => "UnsupportedTargetType"
  | .unsupportedSource _ => "UnsupportedFetcher"
  | .invalid _ => "InvalidRouteConfig"

/-- The written form. -/
def toDocument (e : RouteError) : Document :=
  .failure e.kind (some e.message)

end RouteError

end TrafficGateway
