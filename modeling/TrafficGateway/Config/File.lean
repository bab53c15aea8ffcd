import TrafficGateway.Config.Settings
import TrafficGateway.Json.Reader
import TrafficGateway.Yaml.Reader

/-!
# Configuration files

A configuration is written in JSON or in YAML; the ending of the file's name says in which. A file is
read before its name is looked at.

## Main definitions

* `ConfigError`: why a file holds no configuration.
* `extension?`: the ending of a file's name.
* `GatewayConfig.ofFile`: the configuration in a file.
-/

namespace TrafficGateway

/-- Why a file holds no configuration. -/
inductive ConfigError where
  /-- There is no such file, or it holds no text. -/
  | unreadable
  | badJson
  | badYaml
  | unsupportedFormat
  deriving DecidableEq, Repr, Inhabited

namespace ConfigError

/-- What reports call the kind of failure. -/
def kind : ConfigError → String
  | unreadable => "ReadConfig"
  | badJson => "ParseJson"
  | badYaml => "ParseYaml"
  | unsupportedFormat => "UnsupportedFormat"

/-- The part of the report that is the same for every file of the kind. -/
def message? : ConfigError → Option String
  | unsupportedFormat =>
    some "Unsupported config file format. Supported formats: .yaml, .yml, .json"
  | _ => none

/-- One sentence for the person who started the program with a file. -/
def report (e : ConfigError) (path : String) : String :=
  match e with
  | unreadable => "Failed to read config file: " ++ path
  | badJson => "Failed to parse JSON config file: " ++ path
  | badYaml => "Failed to parse YAML config file: " ++ path
  | unsupportedFormat => e.message?.getD e.kind

/-- The written form. -/
def toDocument (e : ConfigError) : Document :=
  .failure e.kind e.message?

end ConfigError

/-- What follows the last point in the name of a file, unless nothing stands before that point. -/
def extension? (path : String) : Option String :=
  let name := path.toList.reverse.takeWhile (· != '/')
  let ending := name.takeWhile (· != '.')
  match name.drop ending.length with
  | '.' :: _ :: _ => some (String.ofList ending.reverse)
  | _ => none

namespace GatewayConfig

/-- The configuration in a text. A value in JSON that no field asks for only has to keep to the
grammar. -/
def ofText (format : Option String) (text : String) : Except ConfigError GatewayConfig :=
  match format with
  | some "yaml" | some "yml" =>
    match (Yaml.read text).toOption.bind fun d => (ofDocument d).toOption with
    | some c => .ok c
    | none => .error .badYaml
  | some "json" =>
    match (Json.scan text).toOption.bind fun d => (ofDocument d).toOption with
    | some c => .ok c
    | none => .error .badJson
  | _ => .error .unsupportedFormat

/-- The configuration in a file with a name and, if it exists, some bytes. -/
def ofFile (path : String) (content : Option (List UInt8)) : Except ConfigError GatewayConfig :=
  match content.bind fun bytes => String.fromUTF8? ⟨bytes.toArray⟩ with
  | some text => ofText (extension? path) text
  | none => .error .unreadable

end GatewayConfig

end TrafficGateway
