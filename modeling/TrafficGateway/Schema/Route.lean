import TrafficGateway.Schema.Record

/-!
# The schema of routes

What a route may be described by, for those who write descriptions of routes.

## Main definitions

* `RouteSchema.document`: the schema.
* `RouteSchema.version`: the version of the descriptions that it fits.
-/

namespace TrafficGateway

namespace RouteSchema

/-- The version of the descriptions. -/
def version : String := "v1alpha1"

/-- A text that is empty if it is missing. -/
def textField (name : String) (description : Option String) : FieldSchema :=
  { name, type := .text, default := some (.text ""), description }

/-- A list that is empty if it is missing. -/
def listField (name element : String) (description : Option String) : FieldSchema :=
  { name, type := .listOf element, default := some (.list []), description }

/-- An expression. -/
def expression : RecordSchema where
  name := "ExprConfig"
  description := "Expression tree node: a leaf comparison or an AND/OR combinator"
  fields :=
    [textField "source" none, textField "key" none, textField "operator" none,
      textField "value" none, listField "and" "ExprConfig" none, listField "or" "ExprConfig" none]

/-- A fixed address. -/
def target : RecordSchema where
  name := "TargetConfig"
  description := "One static upstream of a domain target"
  fields :=
    [{ name := "target", type := .text, description := some "`host:port` of the upstream" },
      { name := "weight", type := .integer "uint32" false, default := some (.int 1) }]

/-- A fixed answer. -/
def mock : RecordSchema where
  name := "MockContent"
  description := "Mock response body and status"
  fields :=
    [{ name := "contentType", type := .text, default := some (.text "json")
       description := some "\"json\" or \"string\"" },
      { name := "statusCode", type := .integer "uint16" false, default := some (.int 200) },
      textField "respStr" none]

/-- A route. -/
def route : RecordSchema where
  name := "RouteConfig"
  description :=
    "RouteConfig is the declarative description of one gateway route.\n\n"
      ++ "Enumerated fields are kept as strings so a single bad value rejects only this route; "
      ++ "call [`RouteConfig::validate`] to obtain a typed [`RouteSpec`]."
  fields :=
    [textField "matchType" (some "\"fullMatch\", \"prefixMatch\" or \"exprMatch\""),
      textField "path" (some "Request path; required unless exprMatch"),
      { name := "expr", type := .optional "ExprConfig"
        description := some "Boolean expression for exprMatch routes" },
      { name := "priority", type := .integer "int32" true, default := some (.int 0)
        description := some "Evaluation priority among exprMatch routes (higher first)" },
      textField "targetType" (some "\"discovery\", \"domain\" or \"mock\""),
      textField "serviceName" (some "Service name for discovery targets"),
      listField "targets" "TargetConfig" (some "Static weighted targets for domain targets"),
      textField "targetLbPolicy"
        (some "\"round_robin\", \"weighted_round_robin\" or \"hash_policy\""),
      textField "hashHeader" (some "Header whose value is the hash key for hash_policy"),
      textField "rewriteType" (some "\"copyFullPath\", \"stripPrefix\" or \"replaceAny\""),
      textField "replacePath" (some "Replacement path for replaceAny"),
      { name := "mockContent", type := .optional "MockContent"
        description := some "Static response for mock targets" }]

/-- The schema of routes. -/
def document : Document :=
  route.root [expression, target, mock]

end RouteSchema

end TrafficGateway
