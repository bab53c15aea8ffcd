import TrafficGateway.Http.Headers
import TrafficGateway.Http.Status
import TrafficGateway.Route.Spec

/-!
# Responses

The answer to a request: a status, headers, and a body that arrives in frames.

## Main definitions

* `Frame`: a piece of a body, or the trailers after it.
* `Response`: an answer.
* `Response.ofText`, `Response.failure`: answers with a text.
* `MockSpec.respond`: the fixed answer of a mock route.
-/

namespace TrafficGateway

/-- A piece of a body, or the trailers after it. -/
inductive Frame where
  | data (bytes : List UInt8)
  | trailers (headers : Headers)
  deriving DecidableEq, Repr, Inhabited

namespace Frame

/-- The bytes of all data frames, in order. -/
def bytes : List Frame → List UInt8
  | [] => []
  | .data bs :: fs => bs ++ bytes fs
  | .trailers _ :: fs => bytes fs

/-- The headers of the last trailers. -/
def lastTrailers? (fs : List Frame) : Option Headers :=
  fs.foldl (fun found f => match f with | .trailers h => some h | .data _ => found) none

end Frame

/-- The answer to a request. -/
structure Response where
  status : Status
  headers : Headers
  body : List Frame
  deriving DecidableEq, Repr, Inhabited

namespace Response

/-- The media type of plain text. -/
def plainText : String := "text/plain; charset=utf-8"

/-- An answer with a text of a media type. -/
def ofText (status : Status) (mime text : String) : Response :=
  { status
    headers := [("content-type", HeaderValue.ofText mime)]
    body := [.data text.toUTF8.toList] }

/-- An answer that says in a line what went wrong. -/
def failure (status : Status) (line : String) : Response :=
  ofText status plainText (line ++ "\n")

/-- An answer without headers and body. -/
def empty (status : Status) : Response :=
  { status, headers := [], body := [] }

end Response

/-- The fixed answer of a mock route. A number that is no status counts as success. -/
def MockSpec.respond (m : MockSpec) : Response :=
  .ofText ((Status.ofNat? m.statusCode.toNat).getD .ok) m.contentType.mime m.body

end TrafficGateway
