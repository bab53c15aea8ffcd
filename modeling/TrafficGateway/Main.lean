import TrafficGateway.Config.CommandLine
import TrafficGateway.Config.File
import TrafficGateway.Json.Writer
import TrafficGateway.Schema.Route

/-!
# The program

Shows the schema of routes, or reads a configuration and says which of its routes a gateway accepts
and which services these need.

## Main definitions

* `Program.usage`: the help.
* `Program.report`: what is said of a configuration.
* `main`: the program.
-/

namespace TrafficGateway.Program

/-- The help. -/
def usage : String :=
  String.intercalate "\n"
    ["Usage: gateway [OPTIONS]", "", "Options:",
      "  -c, --config <CONFIG>  Configuration file (.yaml, .yml or .json)",
      "      --print-schema     Print the JSON schema of a route entry and exit",
      "  -h, --help             Print help", "  -V, --version          Print version"]

/-- The version of the program. -/
def version : String := "gateway 0.1.0"

/-- What is said of a route. -/
def routeLine (r : RouteConfig) (outcome : Except ForwardError Unit) : String :=
  match outcome with
  | .ok _ => "accepted " ++ r.name
  | .error e => "rejected " ++ r.name ++ ": " ++ e.message

/-- What is said of a configuration: its routes, and the services that they need. -/
def report (c : GatewayConfig) : Except String (List String) :=
  match c.options? with
  | none => .error c.badVersionHeader
  | some options =>
    let (outcomes, gateway) := c.gateway options
    .ok (List.zipWith routeLine c.routes outcomes ++ gateway.services.map ("service " ++ ·))

/-- The bytes of a file, if it can be read. -/
def bytesOf (path : String) : IO (Option (List UInt8)) := do
  try
    return some (← IO.FS.readBinFile path).toList
  catch _ => return none

/-- The configuration in a file; without one it is the default. -/
def load (path : Option String) : IO (Except String GatewayConfig) := do
  match path with
  | none => return .ok {}
  | some path =>
    return (GatewayConfig.ofFile path (← bytesOf path)).mapError fun e => e.report path

/-- Says what is to be said of a configuration, or why there is none. -/
def check (path : Option String) : IO UInt32 := do
  match (← load path).bind report with
  | .ok lines =>
    lines.forM IO.println
    return 0
  | .error reason =>
    IO.eprintln reason
    return 1

/-- Does what the arguments say. -/
def run (arguments : List String) : IO UInt32 := do
  match Arguments.read arguments with
  | .ok a =>
    if a.printSchema then
      IO.println (Json.renderIndented RouteSchema.document)
      return 0
    else check a.config
  | .error .help =>
    IO.println usage
    return 0
  | .error .version =>
    IO.println version
    return 0
  | .error .wrong =>
    IO.eprintln usage
    return 2

end TrafficGateway.Program

/-- The program. -/
def main (arguments : List String) : IO UInt32 :=
  TrafficGateway.Program.run arguments
