import TrafficGateway.Http.Headers
import TrafficGateway.Http.Uri
import TrafficGateway.Text.Blank
import TrafficGateway.Text.Pieces

/-!
# Requests

The head of a request, and what routes look at of it.

## Main definitions

* `RequestHead`: method, address and headers.
* `RequestHead.isMethod`: the texts that can be a method.
* `RequestView`: path, host and headers, as routes see them.
* `RequestView.header`, `RequestView.cookie`: a header and a cookie of a name.
* `RequestHead.view`: what routes see of a request.
-/

namespace TrafficGateway

/-- The head of a request. -/
structure RequestHead where
  method : String := "GET"
  uri : Uri
  headers : Headers := []
  deriving DecidableEq, Repr, Inhabited

/-- Can the text be a method? -/
def RequestHead.isMethod (s : String) : Bool :=
  !s.isEmpty && s.toList.all isTokenChar

/-- What routes look at. -/
structure RequestView where
  path : String
  host : String
  headers : Headers := []
  deriving DecidableEq, Repr, Inhabited

namespace RequestView

/-- The first value of a header, if it is text. -/
def header (v : RequestView) (name : String) : Option String :=
  v.headers.text? name

/-- The name and the value of one cookie: blanks around it do not count, and the first equals sign
ends the name. -/
def cookiePair (s : String) : Option (String × String) :=
  match (trim s).toList.span (· != '=') with
  | (name, _ :: value) => some (String.ofList name, String.ofList value)
  | _ => none

/-- All cookies, in order. -/
def cookies (v : RequestView) : List (String × String) :=
  ((v.headers.getAll "cookie").filterMap HeaderValue.text?).flatMap fun s =>
    (pieces ';' s).filterMap cookiePair

/-- The value of the first cookie of a name. -/
def cookie (v : RequestView) (name : String) : Option String :=
  (v.cookies.find? fun p => p.1 == name).map (·.2)

end RequestView

/-- What routes see of a request. The host is the one in the headers, if it can be read, else the
authority of the address. -/
def RequestHead.view (r : RequestHead) : RequestView :=
  { path := r.uri.path
    host := ((r.headers.text? "host").or r.uri.authority).getD ""
    headers := r.headers }

end TrafficGateway
