import TrafficGateway.Hash
import TrafficGateway.Http.Request
import TrafficGateway.Route.Error
import TrafficGateway.Text.Numeral

/-!
# Fetchers

What the leaves of an expression read from a request. Besides the known sources a gateway can have
sources of its own.

## Main definitions

* `CustomFetcher`: a source of a gateway's own.
* `Fetcher`: a source with its key.
* `Fetcher.ofSource`: the source with a name.
* `Fetcher.fetch`: the text that is read.
-/

namespace TrafficGateway

/-- A source of a gateway's own: its name, and what it reads for a key. -/
structure CustomFetcher where
  name : String
  fetch : RequestView → String → Option String

/-- What a leaf reads. -/
inductive Fetcher where
  | header (name : String)
  | cookie (name : String)
  | host
  | path
  /-- The bucket of a header's value among `modulus` buckets. -/
  | headerHashMod (header : String) (modulus : Nat)
  | custom (fetcher : CustomFetcher) (key : String)

namespace Fetcher

/-- How many buckets there are when a key does not say. -/
def defaultModulus : Nat := 100

/-- The bucket that a text falls into. -/
def bucket (value : String) (modulus : Nat) : Nat :=
  (crc32 value.toUTF8.toList).toNat % modulus

/-- Splits a key into the name of a header and, after a percent sign, a number of buckets. -/
def readBuckets (key : String) : Except RouteError Fetcher :=
  match key.toList.span (· != '%') with
  | (name, _ :: modulus) =>
    match Numeral.readBounded UInt32.size modulus with
    | some modulus =>
      if modulus = 0 then .error (.invalid (.badModulus key))
      else .ok (headerHashMod (asciiLower (String.ofList name)) modulus)
    | none => .error (.invalid (.badModulus key))
  | _ => .ok (headerHashMod (asciiLower key) defaultModulus)

/-- The source with a name, for a key. A source of the gateway's own cannot take the name of a known
one. -/
def ofSource (custom : List CustomFetcher) (source key : String) : Except RouteError Fetcher :=
  let keyed (f : Except RouteError Fetcher) : Except RouteError Fetcher :=
    if key.isEmpty then .error (.invalid (.missingKey source)) else f
  match source with
  | "header" => keyed (.ok (header (asciiLower key)))
  | "cookie" => keyed (.ok (cookie key))
  | "host" => .ok host
  | "path" => .ok path
  | "headerHashMod" => keyed (readBuckets key)
  | name =>
    match custom.find? fun f => f.name == name with
    | some f => .ok (.custom f key)
    | none => .error (.unsupportedSource name)

/-- What is read from a request, if it is there. -/
def fetch? (f : Fetcher) (v : RequestView) : Option String :=
  match f with
  | header name => v.header name
  | cookie name => v.cookie name
  | host => some v.host
  | path => some v.path
  | headerHashMod name modulus => (v.header name).map fun value => toString (bucket value modulus)
  | custom f key => f.fetch v key

/-- What is read from a request; what is missing reads as the empty text. -/
def fetch (f : Fetcher) (v : RequestView) : String :=
  (f.fetch? v).getD ""

/-- A short description for reports. -/
def describe : Fetcher → String
  | header name => "header(" ++ name ++ ")"
  | cookie name => "cookie(" ++ name ++ ")"
  | host => "host"
  | path => "path"
  | headerHashMod name modulus => "headerHashMod(" ++ name ++ "%" ++ toString modulus ++ ")"
  | custom f key => f.name ++ "(" ++ key ++ ")"

end Fetcher

end TrafficGateway
