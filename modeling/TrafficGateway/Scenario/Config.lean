import TrafficGateway.Config.CommandLine
import TrafficGateway.Config.File
import TrafficGateway.Scenario.Step

/-!
# Configurations in scenarios

A configuration file with a written content, and what a gateway makes of it; and the arguments of the
program.

## Main definitions

* `Scenario.configAnswer`: what is in a configuration file.
* `Scenario.argumentsAnswer`: what arguments say.
-/

namespace TrafficGateway

namespace Scenario

/-- What routes are built with, or why they are not. -/
def optionsDoc (c : GatewayConfig) : Document :=
  match c.options? with
  | none => .failure "InvalidVersionHeader" (some c.badVersionHeader)
  | some o =>
    obj
      [("version_header", .text o.versionHeader), ("local_version", .text o.localVersion),
        ("locality", .ofOption Locality.toDocument o.locality),
        ("cache_ttl_ms", bigNat o.cacheTtl),
        ("stream_header_timeout_ms", bigNat o.streamHeaderTimeout)]

/-- What a gateway makes of a configuration. -/
def configDoc (c : GatewayConfig) : Document :=
  let policy := c.trafficPolicy
  obj
    [("config", c.toDocument),
      ("watch_interval_ms", bigNat (GatewayConfig.millis c.watchInterval)),
      ("request_timeout_ms", bigNat policy.requestTimeout),
      ("connect_timeout_ms", bigNat policy.connectTimeout),
      ("initial_backoff_ms", bigNat policy.retry.initialBackoff.toNat),
      ("max_backoff_ms", bigNat policy.retry.maxBackoff.toNat),
      ("max_retries", .nat policy.retry.maxRetries.toNat),
      ("retryable_status_codes",
        .list (policy.retry.retryableStatusCodes.map fun n => .nat n.toNat)),
      ("transport_options", optionsDoc c),
      ("routes", .list (c.routes.map fun r => RouteSpec.report r.validate))]

/-- The name of the file, which may have an ending. -/
def configName (d : Document) : String :=
  "gateway" ++ ((optStr d "ext").map ("." ++ ·)).getD ""

/-- What is in a configuration file, if it exists. -/
def configAnswer (d : Document) : Op := do
  let content :=
    if bool d "missing" false then none else some (Bytes.ofDocument (field d "content"))
  match GatewayConfig.ofFile (configName d) content with
  | .ok c => return configDoc c
  | .error e => throw e.toDocument

/-- What reports call the reason for having no arguments. -/
def refusalKind : Arguments.Refusal → String
  | .help => "DisplayHelp"
  | .version => "DisplayVersion"
  | .wrong => "Cli"

/-- What arguments say. -/
def argumentsAnswer (d : Document) : Op :=
  match Arguments.read ((items d "args").map textOf) with
  | .ok a => return obj [("config", optText a.config), ("print_schema", .bool a.printSchema)]
  | .error r => throw (.failure (refusalKind r))

end Scenario

end TrafficGateway
