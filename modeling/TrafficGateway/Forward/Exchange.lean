import TrafficGateway.Forward.Endpoint
import TrafficGateway.Forward.Hop
import TrafficGateway.Forward.Path
import TrafficGateway.Forward.Retry
import TrafficGateway.Http.Address
import TrafficGateway.Partition.Context
import TrafficGateway.Stream.Channel

/-!
# Exchanges with backends

A request is sent to a backend, and again if that fails and the policy allows it. Everything but the
backend is the same at every attempt: method, address, headers and body. A backend of a discovered
service is chosen anew each time, and without a wish for a version once the first choice has failed.
The attempts that were made are part of the result.

A streaming call is sent once, while its body is still arriving.

## Main definitions

* `Request`: a request with its body and the client that it came from.
* `Outbound`: a request as it goes to a backend.
* `Backends`: what becomes of it.
* `Exchange`: what all attempts have in common.
* `Exchange.attempt`, `Exchange.run`: one attempt, and all of them.
* `StreamingCall.run`: a streaming call.
-/

namespace TrafficGateway

/-! ### Requests and replies -/

/-- A request: its head, what arrives of its body, and the client that it came from. -/
structure Request where
  head : RequestHead
  body : List ChannelItem := []
  client : Option SocketAddress := none
  deriving Inhabited

namespace Request

/-- The frames of a body that arrives as a whole, or why it broke off. -/
def collect : List ChannelItem → Except ForwardError (List Frame)
  | [] => .ok []
  | .failure reason :: _ => .error (.body reason)
  | .frame frame :: rest => (collect rest).map (frame :: ·)

/-- The bytes of the body, or why it broke off. -/
def bytes (r : Request) : Except ForwardError (List UInt8) :=
  (collect r.body).map Frame.bytes

end Request

/-- A request as it goes to a backend. -/
structure Outbound where
  method : String
  uri : Uri
  headers : Headers
  body : List ChannelItem
  deriving DecidableEq, Repr

/-- What becomes of a request that goes to a backend. -/
inductive Reply where
  | answered (response : Response)
  /-- The connection failed. -/
  | failed (detail : String)
  | timedOut
  deriving DecidableEq, Repr

/-- What becomes of a streaming call before the head of its response is there. -/
inductive StreamReply where
  | answered (response : Response)
  /-- The stream broke, for the given reason. -/
  | broken (error : ForwardError)
  | timedOut
  deriving DecidableEq, Repr

/-- What backends do with one request: the reply to each attempt by its number, and to a streaming
call. -/
structure Backends where
  reply : Nat → Outbound → Reply
  stream : Outbound → StreamReply

namespace Backends

/-- Why a stream broke whose backend went away before it answered. -/
def closedEarly : ForwardError := .stream "stream closed before response headers"

/-- Backends to none of which a connection can be made. -/
def unreachable : Backends :=
  { reply := fun _ _ => .failed "connection refused", stream := fun _ => .broken closedEarly }

end Backends

/-- Chooses a backend; the choice may change the state. -/
abbrev Resolve (σ : Type) := RouteContext → σ → Except ForwardError Endpoint × σ

/-- The response to the client. -/
def Response.passedOn (r : Response) (keepTe : Bool) : Response :=
  { r with headers := r.headers.stripHop keepTe }

/-! ### Exchanges -/

/-- What the attempts of a request have in common: the method, the path with the query, the headers,
the body, what the request says about the backend it wants, and whether its backends are
discovered. -/
structure Exchange where
  method : String
  target : String
  headers : Headers
  body : List UInt8
  context : RouteContext
  discovered : Bool
  deriving DecidableEq, Repr

/-- An attempt: what the backend was chosen for, what was sent to it, what became of that, and the
pause before the next attempt, if there is one. -/
structure Attempt where
  context : RouteContext
  sent : Except ForwardError Outbound
  reply : Except ForwardError Reply
  pause : Option Millis := none

namespace Attempt

/-- Is another attempt worth while? A request that timed out, or that could not be sent at all, is
not tried again. -/
def isRetryable (p : RetryPolicy) (a : Attempt) : Bool :=
  match a.reply with
  | .ok (.answered r) => p.shouldRetry r.status.code
  | .ok (.failed _) => true
  | _ => false

/-- What the client gets if there is no other attempt. -/
def result (a : Attempt) : Except ForwardError Response :=
  match a.reply with
  | .ok (.answered r) => .ok (r.passedOn false)
  | .ok (.failed detail) => .error (.exchange .badGateway detail)
  | .ok .timedOut => .error .timeout
  | .error e => .error e

end Attempt

/-- What came of a request: the attempts in order, what the client gets, and the state after it. -/
structure Forwarded (σ : Type) where
  attempts : List Attempt
  result : Except ForwardError Response
  state : σ

/-- The run with one more attempt in front. -/
def Forwarded.after {σ : Type} (a : Attempt) (f : Forwarded σ) : Forwarded σ :=
  { f with attempts := a :: f.attempts }

namespace Exchange

variable {σ : Type}

/-- The exchange of a request whose body has arrived. -/
def ofRequest (r : Request) (body : List UInt8) (rule : PathRule) (context : RouteContext)
    (discovered : Bool) : Exchange :=
  { method := r.head.method
    target := rule.target r.head.uri.path r.head.uri.query
    headers := forwardedHeaders r.head.headers (r.client.map (·.host.render))
    body, context, discovered }

/-- What the backend of an attempt is chosen for. -/
def contextOf (x : Exchange) (number : Nat) : RouteContext :=
  if 0 < number ∧ x.discovered then x.context.pinnedToDefault else x.context

/-- What is sent to an endpoint. -/
def outbound (x : Exchange) (endpoint : Endpoint) : Except ForwardError Outbound :=
  (endpoint.uri x.target).map fun uri =>
    { method := x.method, uri, headers := x.headers, body := [.frame (.data x.body)] }

/-- The attempt with a number, of which the first is zero. -/
def attempt (x : Exchange) (resolve : Resolve σ) (backends : Backends) (number : Nat) (s : σ) :
    Attempt × σ :=
  let context := x.contextOf number
  let (endpoint, s) := resolve context s
  let sent := endpoint.bind x.outbound
  ({ context, sent, reply := sent.map (backends.reply number) }, s)

/-- The attempts from a number on, of which `left` may be followed by another one. -/
def runFrom (x : Exchange) (p : RetryPolicy) (resolve : Resolve σ) (backends : Backends) :
    (left number : Nat) → σ → Forwarded σ
  | 0, number, s =>
    let (a, s) := x.attempt resolve backends number s
    ⟨[a], a.result, s⟩
  | left + 1, number, s =>
    let (a, s) := x.attempt resolve backends number s
    if a.isRetryable p then
      (runFrom x p resolve backends left (number + 1) s).after
        { a with pause := some (p.backoff number) }
    else ⟨[a], a.result, s⟩

/-- All attempts. -/
def run (x : Exchange) (p : RetryPolicy) (resolve : Resolve σ) (backends : Backends) (s : σ) :
    Forwarded σ :=
  x.runFrom p resolve backends p.maxRetries.toNat 0 s

end Exchange

/-- Sends a request on, once its body has arrived; if it breaks off nothing is sent. -/
def Request.forward {σ : Type} (r : Request) (rule : PathRule) (context : RouteContext)
    (discovered : Bool) (p : RetryPolicy) (resolve : Resolve σ) (backends : Backends) (s : σ) :
    Forwarded σ :=
  match r.bytes with
  | .error e => ⟨[], .error e, s⟩
  | .ok body => (Exchange.ofRequest r body rule context discovered).run p resolve backends s

/-! ### Streaming calls -/

namespace StreamingCall

variable {σ : Type}

/-- What is sent of a streaming call: its body as it arrives, and headers that name no host, since
the address does. -/
def outbound (r : Request) (rule : PathRule) (endpoint : Endpoint) :
    Except ForwardError Outbound :=
  (endpoint.uri (rule.target r.head.uri.path r.head.uri.query)).map fun uri =>
    { method := r.head.method
      uri
      headers := (r.head.headers.remove "host").stripHop true
      body := r.body }

/-- What the client of a streaming call gets. -/
def result : StreamReply → Except ForwardError Response
  | .answered r => .ok (r.passedOn true)
  | .broken e => .error e
  | .timedOut => .error .timeout

/-- Sends a streaming call on, once. -/
def run (r : Request) (rule : PathRule) (context : RouteContext) (resolve : Resolve σ)
    (backends : Backends) (s : σ) : Except ForwardError Response × σ :=
  let (endpoint, s) := resolve context s
  let sent := endpoint.bind (outbound r rule)
  (sent.bind fun o => result (backends.stream o), s)

end StreamingCall

end TrafficGateway
