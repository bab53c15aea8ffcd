import TrafficGateway.Balance.Selector
import TrafficGateway.Route.Error

/-!
# The named choices of a route

Routes name their kind of match, target, policy, path rule and content. Each kind is read from its
name; where a choice has a default, the empty name stands for it.

## Main definitions

* `MatchType`, `TargetType`, `BalancePolicy`, `PathRuleKind`, `ContentType`: the kinds.
* `ofName` of each: the kind with a name, or the refusal of that name.
* `label` of each: what reports call it.
* `SelectorFactory.kindFor`: the algorithm of a policy.
-/

namespace TrafficGateway

/-- How a route recognises its requests: by the whole path, by a prefix of it, or by an
expression. -/
inductive MatchType where
  | full
  | leading
  | expression
  deriving DecidableEq, Repr, Inhabited

/-- What reports call a kind of match. -/
def MatchType.label : MatchType → String
  | .full => "FullMatch"
  | .leading => "PrefixMatch"
  | .expression => "ExprMatch"

/-- The kind of match with the given name. -/
def MatchType.ofName : String → Except RouteError MatchType
  | "fullMatch" => .ok .full
  | "prefixMatch" => .ok .leading
  | "exprMatch" => .ok .expression
  | name => .error (.invalid (.unknownMatchType name))

/-- Where a route sends its requests: to the instances of a service, to fixed addresses, or nowhere,
since it answers them itself. -/
inductive TargetType where
  | discovery
  | domain
  | mock
  deriving DecidableEq, Repr, Inhabited

namespace TargetType

/-- The kind of target with the given name. -/
def ofName : String → Except RouteError TargetType
  | "discovery" => .ok .discovery
  | "domain" => .ok .domain
  | "mock" => .ok .mock
  | name => .error (.unsupportedTargetType name)

/-- The name of a kind of target. -/
def name : TargetType → String
  | .discovery => "discovery"
  | .domain => "domain"
  | .mock => "mock"

/-- What reports call a kind of target. -/
def label : TargetType → String
  | .discovery => "Discovery"
  | .domain => "Domain"
  | .mock => "Mock"

end TargetType

/-- How a route spreads its requests. -/
inductive BalancePolicy where
  | roundRobin
  | weightedRoundRobin
  | hashPolicy
  deriving DecidableEq, Repr, Inhabited

namespace BalancePolicy

/-- The policy with the given name; the empty name is round robin. -/
def ofName : String → Except RouteError BalancePolicy
  | "" | "round_robin" => .ok .roundRobin
  | "weighted_round_robin" => .ok .weightedRoundRobin
  | "hash_policy" => .ok .hashPolicy
  | name => .error (.invalid (.unknownPolicy name))

/-- The name of a policy. -/
def name : BalancePolicy → String
  | .roundRobin => "round_robin"
  | .weightedRoundRobin => "weighted_round_robin"
  | .hashPolicy => "hash_policy"

/-- What reports call a policy. -/
def label : BalancePolicy → String
  | .roundRobin => "RoundRobin"
  | .weightedRoundRobin => "WeightedRoundRobin"
  | .hashPolicy => "HashPolicy"

end BalancePolicy

/-- The algorithm of a policy. -/
def SelectorFactory.kindFor (f : SelectorFactory) : BalancePolicy → SelectorKind
  | .roundRobin => .roundRobin
  | .weightedRoundRobin => .weightedRoundRobin
  | .hashPolicy => .hash f.hash

/-- How a route changes the path of its requests. -/
inductive PathRuleKind where
  | copyFullPath
  | stripPrefix
  | replaceAny
  deriving DecidableEq, Repr, Inhabited

/-- The kind of path rule with the given name; the empty name leaves paths alone. -/
def PathRuleKind.ofName : String → Except RouteError PathRuleKind
  | "" | "copyFullPath" => .ok .copyFullPath
  | "stripPrefix" => .ok .stripPrefix
  | "replaceAny" => .ok .replaceAny
  | name => .error (.invalid (.unknownPathRule name))

/-- What reports call a kind of path rule. -/
def PathRuleKind.label : PathRuleKind → String
  | .copyFullPath => "CopyFullPath"
  | .stripPrefix => "StripPrefix"
  | .replaceAny => "ReplaceAny"

/-- What the content of a mock route is. -/
inductive ContentType where
  | json
  | text
  deriving DecidableEq, Repr, Inhabited

namespace ContentType

/-- The kind of content with the given name. -/
def ofName : String → Except RouteError ContentType
  | "json" => .ok .json
  | "string" => .ok .text
  | name => .error (.invalid (.unknownContentType name))

/-- The media type of the content. -/
def mime : ContentType → String
  | .json => "application/json"
  | .text => "text/plain; charset=utf-8"

/-- What reports call a kind of content. -/
def label : ContentType → String
  | .json => "Json"
  | .text => "Text"

end ContentType

end TrafficGateway
