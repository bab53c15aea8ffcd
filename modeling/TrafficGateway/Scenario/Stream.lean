import TrafficGateway.Scenario.Step
import TrafficGateway.Stream.Turns

/-!
# Streams in scenarios

Pumps over written sources and sinks, and steps on a frame channel.

## Main definitions

* `Scenario.forwardErrorOf`: a failure, written as its kind and its parts.
* `Scenario.pumpAnswer`: a run of a pump, or of one copy when there is no backend.
* `Scenario.channelStep`: a step on a frame channel.
-/

namespace TrafficGateway

namespace Scenario

/-- The status under a name. -/
def statusOf (d : Document) (name : String) (default : Nat) : Except Document Status :=
  orElse invalidStatus (Status.ofNat? (nat d name default))

/-- The failure that a document describes. -/
def forwardErrorOf (d : Document) : Except Document ForwardError := do
  let a := str d "a"
  match str d "kind" with
  | "EmptyNodes" => return .backend .noNodes
  | "InvalidWeight" => return .backend (.invalidWeight a (nat d "n" 0))
  | "ServiceUnavailable" => return .backend (.unavailable a (str d "b"))
  | "Registry" => return .backend (.registry a)
  | "Internal" => return .backend (.internal a)
  | "UnsupportedOperator" => return .route (.unsupportedOperator a)
  | "UnsupportedTargetType" => return .route (.unsupportedTargetType a)
  | "UnsupportedFetcher" => return .route (.unsupportedSource a)
  | "InvalidRouteConfig" => return .route (.invalid (.refused a))
  | "Upstream" => return .exchange (← statusOf d "n" 0) a
  | "Timeout" => return .timeout
  | "Stream" => return .stream a
  | "Body" => return .body a
  | _ => throw (badInput "kind")

/-! ### Channels -/

/-- The written form of what a reader finds. -/
def itemDoc : ChannelItem → Document
  | .frame f => f.toDocument
  | .failure reason => .failure reason

/-- The answer of a reader. -/
def receivedDoc : Received → Document
  | .item i => itemDoc i
  | .ended => .text "end"
  | .pending => .text "pending"
  | .gone => .text "no body"

/-- A step on a frame channel. -/
def channelStep (step : Document) : StateM FrameChannel Document := do
  let c ← get
  let become (c : FrameChannel) : StateM FrameChannel Document := do
    set c
    return ok
  match str step "op" with
  | "send" =>
    match Frame.ofDocument step with
    | none => return invalidRequest
    | some frame =>
      match c.send frame with
      | (.taken, c) => become c
      | (.refused e, _) => return e.toDocument
      | (_, c) =>
        set c
        return .text "pending"
  | "close" => become c.close
  | "abort" =>
    match forwardErrorOf (field step "reason") with
    | .ok e => become (c.abort e)
    | .error e => return e
  | "closed" => return .bool !c.reading
  | "recv" => return receivedDoc (← modifyGet (·.receive))
  | "drop_body" => become c.dropReader
  | _ => return badInput "step"

/-! ### Pumps -/

/-- Reads what a source gives. -/
def sourceItemOf (d : Document) : Except Document SourceItem :=
  if bool d "hang" false then return .stall
  else if bool d "yield" false then return .pause
  else
    match optStr d "error" with
    | some reason => return .failure (.stream reason)
    | none => orElse invalidRequest ((Frame.ofDocument d).map .frame)

/-- The items of the source under a name. -/
def sourceOf (d : Document) (name : String) : Except Document (List SourceItem) :=
  (items (field d name) "frames").mapM sourceItemOf

/-- The name of a sink. -/
def sideName : Side → String
  | .toBackend => "to_upstream"
  | .toClient => "to_client"

/-- The sink of a side. -/
def sinkOf (d : Document) (side : Side) : Sink :=
  let sink := field d (sideName side)
  if str sink "via" = "channel" then
    .channel (if bool sink "dropped" false then FrameChannel.dropReader {} else {})
  else
    .scripted (natOf? (field sink "fail_at")) (.stream (sideName side ++ " sink failed"))
      (bool sink "closed" false)

/-- The entry of a call in the log of the scripted sinks. -/
def callDoc (side : Side) (call : SinkCall) : Document :=
  .list (.text (sideName side) :: match call with
    | .send frame => [frame.toDocument]
    | .close => [.text "close"]
    | .abort e => [.text "abort", .text e.message])

/-- What the scripted sinks were called with. -/
def callsDoc (calls : List (Side × SinkCall)) (isScripted : Side → Bool) : Document :=
  .list ((calls.filter fun c => isScripted c.1).map fun c => callDoc c.1 c.2)

/-- Is the sink scripted? -/
def isScripted : Sink → Bool
  | .scripted .. => true
  | .channel _ => false

/-- What is left for the reader of a sink, once nobody writes to it any more. -/
def leftInSink : Sink → Document
  | .channel c =>
    if c.reading then .list (c.items.map itemDoc ++ [receivedDoc .ended]) else .null
  | .scripted .. => .null

/-- The answer of one copy. -/
def copyResult (c : Copy) : Document :=
  match c.phase with
  | .failed e => e.toDocument
  | .finished => .nat c.count
  | _ => .text "hung"

/-- The answer of a pump. -/
def pumpResult (p : Pump) : Document :=
  match p.outcome? with
  | some (.error e) => e.toDocument
  | some (.ok (sent, received)) => .list [.nat sent, .nat received]
  | none => .text "hung"

/-- A run of a pump, or of one copy when there is no backend. -/
def pumpAnswer (d : Document) : Op := do
  let clientSource ← sourceOf d "client"
  let backendSink := sinkOf d .toBackend
  if has d "upstream" then
    let clientSink := sinkOf d .toClient
    let backendSource ← sourceOf d "upstream"
    let t := Turns.run { clientSource, backendSource, backendSink, clientSink }
    return obj
      [("result", pumpResult t.pump),
        ("log", callsDoc t.pump.calls fun side => isScripted (t.ends side).2),
        ("upstream_body", leftInSink t.backendSink), ("client_body", leftInSink t.clientSink)]
  else
    let (copy, sink, calls) := Copy.run clientSource backendSink
    return obj
      [("result", copyResult copy),
        ("log", callsDoc (calls.map fun c => (.toBackend, c)) fun _ => isScripted sink),
        ("upstream_body", leftInSink sink)]

end Scenario

end TrafficGateway
