import TrafficGateway.Document
import TrafficGateway.Http.Request
import TrafficGateway.Http.Response
import TrafficGateway.Text.Numeral

/-!
# Written messages

The written form of requests and responses. Bytes that are a text are written as that text, other
bytes as hexadecimal digits in a table.

## Main definitions

* `Bytes.toDocument`, `Bytes.ofDocument`: bytes.
* `Headers.toDocument`, `Headers.ofDocument`: headers as pairs of a name and a value.
* `Frame.toDocument`, `Frame.ofDocument`: pieces of bodies.
* `RequestHead.ofDocument`, `RequestView.ofDocument`: requests.
* `Response.fields`: responses.
-/

namespace TrafficGateway

namespace Bytes

/-- The bytes of pairs of hexadecimal digits, up to the first that is none. -/
def ofHex : List Char → List UInt8
  | a :: b :: rest =>
    match Numeral.hexValue a, Numeral.hexValue b with
    | some x, some y => UInt8.ofNat (16 * x + y) :: ofHex rest
    | _, _ => []
  | _ => []

/-- The bytes of a text in UTF-8, or the raw bytes of a table with hexadecimal digits. -/
def ofDocument (d : Document) : List UInt8 :=
  match d, d.get? "hex" with
  | .text s, _ => s.toUTF8.toList
  | _, some (.text digits) => ofHex digits.toList
  | _, _ => []

/-- The text of bytes that are one. -/
def text? (bytes : List UInt8) : Option String :=
  String.fromUTF8? ⟨bytes.toArray⟩

/-- The written form. -/
def toDocument (bytes : List UInt8) : Document :=
  match text? bytes with
  | some s => .text s
  | none => .table [("hex", .text (String.join (bytes.map Numeral.hexByte)))]

end Bytes

namespace Headers

/-- Reads a header: a list of its name and its value. -/
def entryOfDocument : Document → Option (String × HeaderValue)
  | .list (.text name :: rest) =>
    let value := Bytes.ofDocument (rest.headD .null)
    match HeaderName.read name with
    | some name => if HeaderValue.isValid value then some (name, value) else none
    | none => none
  | _ => none

/-- Reads headers; where no list is written there are none. -/
def ofDocument : Document → Option Headers
  | .list ds => ds.mapM entryOfDocument
  | _ => some []

/-- The written form, sorted by name. -/
def toDocument (h : Headers) : Document :=
  .list ((h.mergeSort fun a b => decide (a.1 ≤ b.1)).map fun e =>
    .list [.text e.1, Bytes.toDocument e.2])

end Headers

/-- Reads a piece of a body: its data, or the trailers. -/
def Frame.ofDocument (d : Document) : Option Frame :=
  match d.get? "trailers" with
  | some written => (Headers.ofDocument written).map .trailers
  | none => some (.data (Bytes.ofDocument ((d.get? "data").getD .null)))

/-- The written form. -/
def Frame.toDocument : Frame → Document
  | .data bytes => .table [("data", Bytes.toDocument bytes)]
  | .trailers headers => .table [("trailers", headers.toDocument)]

/-- A text in a table, if there is one under the key. -/
def textUnder? (d : Document) (key : String) : Option String :=
  match d.get? key with
  | some (.text s) => some s
  | _ => none

/-- Reads a request as it would arrive. -/
def RequestHead.ofDocument (d : Document) : Option RequestHead := do
  let headers ← Headers.ofDocument ((d.get? "headers").getD .null)
  let method := (textUnder? d "method").getD "GET"
  let uri ← Uri.read ((textUnder? d "uri").getD "/")
  if RequestHead.isMethod method then return { method, uri, headers } else none

/-- Reads a request as routes see it: with a path it is taken as it is written, without one as it
would arrive. -/
def RequestView.ofDocument (d : Document) : Option RequestView :=
  match textUnder? d "path" with
  | some path => do
    let headers ← Headers.ofDocument ((d.get? "headers").getD .null)
    return { path, host := (textUnder? d "host").getD "", headers }
  | none => (RequestHead.ofDocument d).map RequestHead.view

/-- The fields of the written form. -/
def Response.fields (r : Response) : List (String × Document) :=
  [("status", .nat r.status.code), ("headers", r.headers.toDocument),
    ("body", Bytes.toDocument (Frame.bytes r.body))]

end TrafficGateway
