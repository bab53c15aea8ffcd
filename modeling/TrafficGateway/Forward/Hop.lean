import TrafficGateway.Http.Request

/-!
# Headers of a single hop

Some headers concern one connection only and are not passed on: a fixed list, and whatever the
`connection` header names. What is passed on to a backend tells it whom the gateway answers.

## Main definitions

* `HopByHop.names`: the fixed list.
* `Headers.listedInConnection`: the names in the `connection` header.
* `Headers.stripHop`: the headers that are passed on.
* `isStreamingCall`: is a request the start of a stream?
* `forwardedHeaders`: the headers of a request to a backend.
-/

namespace TrafficGateway

namespace HopByHop

/-- The headers that always concern one connection only. -/
def names : List String :=
  ["connection", "keep-alive", "proxy-authenticate", "proxy-authorization", "proxy-connection",
    "te", "trailer", "transfer-encoding", "upgrade"]

/-- Is the name in the fixed list? -/
def contains (name : String) : Bool :=
  names.contains name

end HopByHop

namespace Headers

/-- The names in the text values of the `connection` header, in lower case. -/
def listedInConnection (h : Headers) : List String :=
  (((h.getAll "connection").filterMap HeaderValue.text?).flatMap fun v =>
    (pieces ',' v).map fun name => asciiLower (trim name)).filter fun name => !name.isEmpty

/-- The headers that are passed on. With `keepTe` the `te` header is, unless the `connection`
header names it. -/
def stripHop (h : Headers) (keepTe : Bool) : Headers :=
  let listed := h.listedInConnection
  h.filter fun e =>
    !listed.contains e.1 && (!HopByHop.contains e.1 || (keepTe && e.1 == "te"))

end Headers

/-- Is a request the start of a stream, by the type of its content? -/
def isStreamingCall (h : Headers) : Bool :=
  match h.text? "content-type" with
  | some mime => "application/grpc".toList.isPrefixOf mime.toList
  | none => false

/-- The headers of a request to a backend: those that are passed on, with the host moved aside and
the address of the client added to those that it came through. -/
def forwardedHeaders (h : Headers) (client : Option String) : Headers :=
  let h := h.stripHop false
  let h := match h.get? "host" with
    | some host => (h.remove "host").insert "x-forwarded-host" host
    | none => h
  match client with
  | none => h
  | some address =>
    let chain := match h.text? "x-forwarded-for" with
      | some existing => existing ++ ", " ++ address
      | none => address
    h.insert "x-forwarded-for" (HeaderValue.ofText chain)

end TrafficGateway
