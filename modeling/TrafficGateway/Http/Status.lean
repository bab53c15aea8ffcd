/-!
# Status codes

The outcome of a request as a number of three digits.

## Main definitions

* `Status`: a code.
* `Status.reason`: the phrase that belongs to a code.
* `Status.describe`: the code with its phrase.
-/

namespace TrafficGateway

/-- A status code. -/
structure Status where
  code : Nat
  code_ge : 100 ≤ code := by omega
  code_lt : code < 1000 := by omega
  deriving DecidableEq, Repr

namespace Status

/-- The status with a number, if it has three digits. -/
def ofNat? (n : Nat) : Option Status :=
  if h : 100 ≤ n ∧ n < 1000 then some ⟨n, h.1, h.2⟩ else none

/-- Success. -/
def ok : Status := ⟨200, by omega, by omega⟩

/-- The request cannot be understood. -/
def badRequest : Status := ⟨400, by omega, by omega⟩

/-- There is nothing at the path. -/
def notFound : Status := ⟨404, by omega, by omega⟩

/-- The gateway failed. -/
def internalError : Status := ⟨500, by omega, by omega⟩

/-- The backend failed. -/
def badGateway : Status := ⟨502, by omega, by omega⟩

/-- There is no backend. -/
def unavailable : Status := ⟨503, by omega, by omega⟩

/-- The backend did not answer in time. -/
def gatewayTimeout : Status := ⟨504, by omega, by omega⟩

instance : Inhabited Status := ⟨ok⟩

/-- Does the code blame the side that answers? -/
def isServerError (s : Status) : Bool :=
  500 ≤ s.code && s.code < 600

/-- The phrase that belongs to a number, if there is one. -/
def reasonOf? : Nat → Option String
  | 100 => some "Continue"
  | 101 => some "Switching Protocols"
  | 102 => some "Processing"
  | 103 => some "Early Hints"
  | 200 => some "OK"
  | 201 => some "Created"
  | 202 => some "Accepted"
  | 203 => some "Non Authoritative Information"
  | 204 => some "No Content"
  | 205 => some "Reset Content"
  | 206 => some "Partial Content"
  | 207 => some "Multi-Status"
  | 208 => some "Already Reported"
  | 226 => some "IM Used"
  | 300 => some "Multiple Choices"
  | 301 => some "Moved Permanently"
  | 302 => some "Found"
  | 303 => some "See Other"
  | 304 => some "Not Modified"
  | 305 => some "Use Proxy"
  | 307 => some "Temporary Redirect"
  | 308 => some "Permanent Redirect"
  | 400 => some "Bad Request"
  | 401 => some "Unauthorized"
  | 402 => some "Payment Required"
  | 403 => some "Forbidden"
  | 404 => some "Not Found"
  | 405 => some "Method Not Allowed"
  | 406 => some "Not Acceptable"
  | 407 => some "Proxy Authentication Required"
  | 408 => some "Request Timeout"
  | 409 => some "Conflict"
  | 410 => some "Gone"
  | 411 => some "Length Required"
  | 412 => some "Precondition Failed"
  | 413 => some "Payload Too Large"
  | 414 => some "URI Too Long"
  | 415 => some "Unsupported Media Type"
  | 416 => some "Range Not Satisfiable"
  | 417 => some "Expectation Failed"
  | 418 => some "I'm a teapot"
  | 421 => some "Misdirected Request"
  | 422 => some "Unprocessable Entity"
  | 423 => some "Locked"
  | 424 => some "Failed Dependency"
  | 425 => some "Too Early"
  | 426 => some "Upgrade Required"
  | 428 => some "Precondition Required"
  | 429 => some "Too Many Requests"
  | 431 => some "Request Header Fields Too Large"
  | 451 => some "Unavailable For Legal Reasons"
  | 500 => some "Internal Server Error"
  | 501 => some "Not Implemented"
  | 502 => some "Bad Gateway"
  | 503 => some "Service Unavailable"
  | 504 => some "Gateway Timeout"
  | 505 => some "HTTP Version Not Supported"
  | 506 => some "Variant Also Negotiates"
  | 507 => some "Insufficient Storage"
  | 508 => some "Loop Detected"
  | 510 => some "Not Extended"
  | 511 => some "Network Authentication Required"
  | _ => none

/-- The phrase that belongs to a code. -/
def reason (s : Status) : String :=
  (reasonOf? s.code).getD "<unknown status code>"

/-- The code with its phrase. -/
def describe (s : Status) : String :=
  toString s.code ++ " " ++ s.reason

end Status

end TrafficGateway
