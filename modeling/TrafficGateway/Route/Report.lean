import TrafficGateway.Route.Condition

/-!
# Reports on routes

The written form of validated routes and of compiled conditions, for those who want to see what a
gateway made of its configuration.

## Main definitions

* `PathRule.toDocument`, `PathRule.ofDocument`: path rules.
* `RouteTarget.toDocument`, `RouteSpec.toDocument`: validated routes.
* `Comparator.toDocument`, `Condition.toDocument`: compiled conditions.
-/

namespace TrafficGateway

namespace PathRule

/-- The written form. -/
def toDocument : PathRule → Document
  | copyFullPath => .table [("type", .text "copyFullPath")]
  | stripPrefix path => .table [("type", .text "stripPrefix"), ("path", .text path)]
  | replaceAny path => .table [("type", .text "replaceAny"), ("path", .text path)]

/-- Reads a path rule; one of an unknown type leaves paths alone, and a missing path is empty. -/
def ofDocument (d : Document) : PathRule :=
  let path := match d.get? "path" with
    | some (.text path) => path
    | _ => ""
  match d.get? "type" with
  | some (.text "stripPrefix") => stripPrefix path
  | some (.text "replaceAny") => replaceAny path
  | _ => copyFullPath

end PathRule

/-- The written form. -/
def RouteTarget.toDocument : RouteTarget → Document
  | .discovery service policy hashHeader =>
    .table
      [("service_name", .text service), ("lb_policy", .text policy.name),
        ("hash_header", .ofOption .text hashHeader)]
  | .domain targets policy hashHeader =>
    .table
      [("targets", .list (targets.map TargetConfig.toDocument)), ("lb_policy", .text policy.name),
        ("hash_header", .ofOption .text hashHeader)]
  | .mock spec =>
    .table
      [("mime", .text spec.contentType.mime), ("status_code", .nat spec.statusCode.toNat),
        ("body", .text spec.body)]

/-- The written form of an expression to match by, if a route has one. -/
def RouteMatcher.exprDocument : RouteMatcher → Document
  | .expression e => e.toDocument
  | _ => .null

/-- The written form. -/
def RouteSpec.toDocument (r : RouteSpec) : Document :=
  .table
    [("match_type", .text r.matcher.matchType.label), ("path", .text r.path),
      ("expr", r.matcher.exprDocument), ("priority", .int r.priority.toInt),
      ("target_type", .text r.target.targetType.name), ("target", r.target.toDocument),
      ("rewrite", r.pathRule.toDocument)]

/-- The written form of what became of a route. -/
def RouteSpec.report : Except RouteError RouteSpec → Document
  | .ok spec => spec.toDocument
  | .error e => e.toDocument

/-- The written form. -/
def Comparator.toDocument : Comparator → Document
  | .equals value => .table [("eq", .text value)]
  | .differs value => .table [("neq", .text value)]
  | .oneOf values => .table [("in", .texts values)]
  | .contains value => .table [("contains", .text value)]
  | .regex pattern => .table [("regex", .text pattern)]
  | .empty => .text "empty"
  | .notEmpty => .text "notEmpty"

namespace Condition

mutual

/-- The written form. -/
def toDocument : Condition → Document
  | leaf fetcher comparator =>
    .table [("fetcher", .text fetcher.describe), ("comparator", comparator.toDocument)]
  | all conditions => .table [("and", .list (toDocuments conditions))]
  | any conditions => .table [("or", .list (toDocuments conditions))]

/-- The written forms. -/
def toDocuments : List Condition → List Document
  | [] => []
  | c :: cs => toDocument c :: toDocuments cs

end

end Condition

end TrafficGateway
