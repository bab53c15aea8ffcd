import TrafficGateway.Document.Decode

/-!
# Route descriptions

Routes as they are written down. Choices are kept by their names, so that a bad one refuses its
route only and the description of the others can still be read.

## Main definitions

* `ExprConfig`: a tree of comparisons.
* `TargetConfig`, `MockContent`, `RouteConfig`: the parts of a route and a route.
* `ofDocument`, `toDocument` of each: its written form.
* `RouteConfig.name`: what a route is called.
-/

namespace TrafficGateway

/-- A tree of comparisons: a leaf compares something of a request with a value, an inner node
demands all or any of its children. -/
structure ExprConfig where
  source : String := ""
  key : String := ""
  operator : String := ""
  value : String := ""
  all : List ExprConfig := []
  any : List ExprConfig := []
  deriving Repr, Inhabited, BEq

/-- The nesting depth of a document, which bounds the depth of an expression in it. -/
def Document.depth : Document → Nat
  | .list items => depthOfItems items + 1
  | .table entries => depthOfEntries entries + 1
  | _ => 0
where
  /-- The largest depth of an item. -/
  depthOfItems : List Document → Nat
    | [] => 0
    | d :: ds => max d.depth (depthOfItems ds)
  /-- The largest depth of the value of an entry. -/
  depthOfEntries : List (String × Document) → Nat
    | [] => 0
    | (_, d) :: ds => max d.depth (depthOfEntries ds)

namespace ExprConfig

/-- Is the node a comparison? -/
def isLeaf (e : ExprConfig) : Bool :=
  e.all.isEmpty && e.any.isEmpty

/-- The names of the fields, in the order of their declaration. -/
def fieldNames : List String :=
  ["source", "key", "operator", "value", "and", "or"]

/-- Reads an expression that nests at most `depth` deep. -/
def ofDocumentWithin : Nat → Document → Except DecodeError ExprConfig
  | 0, _ => .error (.mismatch "an expression")
  | depth + 1, d => do
    let r ← d.asRecord fieldNames
    let children (d : Document) := do
      let items ← d.asList
      Document.decodeAll (ofDocumentWithin depth) items
    let source ← r.withDefault "source" "" Document.asText
    let key ← r.withDefault "key" "" Document.asText
    let operator ← r.withDefault "operator" "" Document.asText
    let value ← r.withDefault "value" "" Document.asText
    let all ← r.withDefault "and" [] children
    let any ← r.withDefault "or" [] children
    return { source, key, operator, value, all, any }

/-- Reads an expression. Every field may be missing. -/
def ofDocument (d : Document) : Except DecodeError ExprConfig :=
  ofDocumentWithin (d.depth + 1) d

mutual

/-- The written form, with every field. -/
def toDocument : ExprConfig → Document
  | ⟨source, key, operator, value, all, any⟩ =>
    .table
      [("source", .text source), ("key", .text key), ("operator", .text operator),
        ("value", .text value), ("and", .list (toDocuments all)),
        ("or", .list (toDocuments any))]

/-- The written forms of several expressions. -/
def toDocuments : List ExprConfig → List Document
  | [] => []
  | e :: es => toDocument e :: toDocuments es

end

end ExprConfig

/-- One fixed address of a domain target. -/
structure TargetConfig where
  target : String
  weight : UInt32 := 1
  deriving DecidableEq, Repr, Inhabited

namespace TargetConfig

/-- The names of the fields, in the order of their declaration. -/
def fieldNames : List String := ["target", "weight"]

/-- Reads a target, of which the address is required. -/
def ofDocument (d : Document) : Except DecodeError TargetConfig := do
  let r ← d.asRecord fieldNames
  let target ← r.required "target" Document.asText
  let weight ← r.withDefault "weight" 1 (Document.asNat UInt32.size)
  return { target, weight := .ofNat weight }

/-- The written form. -/
def toDocument (t : TargetConfig) : Document :=
  .table [("target", .text t.target), ("weight", .nat t.weight.toNat)]

end TargetConfig

/-- The fixed answer of a mock route. -/
structure MockContent where
  contentType : String := "json"
  statusCode : UInt16 := 200
  body : String := ""
  deriving DecidableEq, Repr, Inhabited

namespace MockContent

/-- The names of the fields, in the order of their declaration. -/
def fieldNames : List String := ["contentType", "statusCode", "respStr"]

/-- Reads a fixed answer. Every field may be missing. -/
def ofDocument (d : Document) : Except DecodeError MockContent := do
  let r ← d.asRecord fieldNames
  let contentType ← r.withDefault "contentType" "json" Document.asText
  let statusCode ← r.withDefault "statusCode" 200 (Document.asNat UInt16.size)
  let body ← r.withDefault "respStr" "" Document.asText
  return { contentType, statusCode := .ofNat statusCode, body }

/-- The written form. -/
def toDocument (m : MockContent) : Document :=
  .table
    [("contentType", .text m.contentType), ("statusCode", .nat m.statusCode.toNat),
      ("respStr", .text m.body)]

end MockContent

/-- One route as it is written down. -/
structure RouteConfig where
  matchType : String := ""
  path : String := ""
  expr : Option ExprConfig := none
  priority : Int32 := 0
  targetType : String := ""
  serviceName : String := ""
  targets : List TargetConfig := []
  policy : String := ""
  hashHeader : String := ""
  pathRule : String := ""
  replacePath : String := ""
  mock : Option MockContent := none
  deriving Repr, Inhabited

namespace RouteConfig

/-- What a route is called in labels: its path, or its priority among the expressions. -/
def name (r : RouteConfig) : String :=
  if r.path.isEmpty then "expr:" ++ toString r.priority.toInt else r.path

/-- The names of the fields, in the order of their declaration. -/
def fieldNames : List String :=
  ["matchType", "path", "expr", "priority", "targetType", "serviceName", "targets",
    "targetLbPolicy", "hashHeader", "rewriteType", "replacePath", "mockContent"]

/-- Reads a route. Every field may be missing. -/
def ofDocument (d : Document) : Except DecodeError RouteConfig := do
  let r ← d.asRecord fieldNames
  let targetList (d : Document) := do
    let items ← d.asList
    Document.decodeAll TargetConfig.ofDocument items
  let matchType ← r.withDefault "matchType" "" Document.asText
  let path ← r.withDefault "path" "" Document.asText
  let expr ← r.withDefault "expr" none (Document.asOptional ExprConfig.ofDocument)
  let priority ← r.withDefault "priority" 0 (Document.asInt (UInt32.size / 2))
  let targetType ← r.withDefault "targetType" "" Document.asText
  let serviceName ← r.withDefault "serviceName" "" Document.asText
  let targets ← r.withDefault "targets" [] targetList
  let policy ← r.withDefault "targetLbPolicy" "" Document.asText
  let hashHeader ← r.withDefault "hashHeader" "" Document.asText
  let pathRule ← r.withDefault "rewriteType" "" Document.asText
  let replacePath ← r.withDefault "replacePath" "" Document.asText
  let mock ← r.withDefault "mockContent" none (Document.asOptional MockContent.ofDocument)
  return {
    matchType, path, expr, priority := .ofInt priority, targetType, serviceName, targets, policy,
    hashHeader, pathRule, replacePath, mock }

/-- The written form: every field but an absent expression and an absent fixed answer. -/
def toDocument (r : RouteConfig) : Document :=
  .ofFields
    [("matchType", some (.text r.matchType)), ("path", some (.text r.path)),
      ("expr", r.expr.map ExprConfig.toDocument), ("priority", some (.int r.priority.toInt)),
      ("targetType", some (.text r.targetType)), ("serviceName", some (.text r.serviceName)),
      ("targets", some (.list (r.targets.map TargetConfig.toDocument))),
      ("targetLbPolicy", some (.text r.policy)), ("hashHeader", some (.text r.hashHeader)),
      ("rewriteType", some (.text r.pathRule)), ("replacePath", some (.text r.replacePath)),
      ("mockContent", r.mock.map MockContent.toDocument)]

end RouteConfig

end TrafficGateway
