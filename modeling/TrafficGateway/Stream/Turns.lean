import TrafficGateway.Stream.Pump

/-!
# Pumps in turns

A pump over given sources and sinks. The two copies take turns, the one to the backend first; a copy
goes on until its source or its sink makes it wait. When a source only pauses there is another round,
and when nothing pauses and nothing ends, the pump hangs.

## Main definitions

* `SourceItem`: what a source gives.
* `Sink`: a sink that fails as it is told, or a channel.
* `Sink.poll`: the events of one turn.
* `Copy.run`, `Turns.run`: a whole run of one copy and of a pump.
-/

namespace TrafficGateway

/-- What a source gives next: a frame, a failure, a pause until the next round, or nothing for
ever. -/
inductive SourceItem where
  | frame (frame : Frame)
  | failure (error : ForwardError)
  | pause
  | stall
  deriving DecidableEq, Repr

/-- A sink that refuses the frame after a number of them with an error and whose reader may have
gone, or a channel. -/
inductive Sink where
  | scripted (failAfter : Option Nat) (error : ForwardError) (abandoned : Bool)
  | channel (channel : FrameChannel)
  deriving DecidableEq, Repr

namespace Sink

/-- Has the reader gone? -/
def isAbandoned : Sink → Bool
  | scripted _ _ abandoned => abandoned
  | channel c => !c.reading

/-- How a frame fares that is sent. -/
def send : Sink → Frame → SendOutcome × Sink
  | scripted failAfter error abandoned, _ =>
    match failAfter with
    | some 0 => (.refused error, scripted failAfter error abandoned)
    | some (n + 1) => (.taken, scripted (some n) error abandoned)
    | none => (.taken, scripted none error abandoned)
  | channel c, frame =>
    let (outcome, c) := c.send frame
    (outcome, channel c)

/-- The sink after it was closed or aborted. -/
def obey : Sink → SinkCall → Sink
  | channel c, .close => channel c.close
  | channel c, .abort e => channel (c.abort e)
  | sink, _ => sink

/-- What a turn of a copy brings: its events, whether its source only pauses, what is left of the
source, and the sink. -/
structure Turn where
  events : List CopyEvent
  pauses : Bool
  source : List SourceItem
  sink : Sink

/-- The events before those of a turn. -/
def Turn.after (events : List CopyEvent) (t : Turn) : Turn :=
  { t with events := events ++ t.events }

/-- One turn of a copy that waits for its source. The source is asked before the reader is looked
for. -/
def poll : List SourceItem → Sink → Turn
  | [], sink => ⟨[.ended], false, [], sink.obey .close⟩
  | .frame frame :: source, sink =>
    match sink.send frame with
    | (.taken, sink) => (poll source sink).after [.delivered frame, .accepted]
    | (.takenLast, sink) => ⟨[.delivered frame], false, source, sink⟩
    | (.waits, sink) => ⟨[], false, .frame frame :: source, sink⟩
    | (.refused e, sink) => ⟨[.refused e], false, source, sink⟩
  | .failure e :: source, sink => ⟨[.broken e], false, source, sink⟩
  | .pause :: source, sink =>
    if sink.isAbandoned then ⟨[.abandoned], false, source, sink⟩ else ⟨[], true, source, sink⟩
  | .stall :: source, sink =>
    if sink.isAbandoned then ⟨[.abandoned], false, source, sink⟩
    else ⟨[], false, .stall :: source, sink⟩

end Sink

/-- The sources and the sinks of a pump, and how far it has come. -/
structure Turns where
  pump : Pump := {}
  clientSource : List SourceItem
  backendSource : List SourceItem
  backendSink : Sink
  clientSink : Sink

namespace Turns

/-- The source and the sink of a side. -/
def ends (t : Turns) : Side → List SourceItem × Sink
  | .toBackend => (t.clientSource, t.backendSink)
  | .toClient => (t.backendSource, t.clientSink)

/-- Replaces the source and the sink of a side. -/
def setEnds (t : Turns) (side : Side) (source : List SourceItem) (sink : Sink) : Turns :=
  match side with
  | .toBackend => { t with clientSource := source, backendSink := sink }
  | .toClient => { t with backendSource := source, clientSink := sink }

/-- One turn of a side, if its copy waits for its source: does the source only pause? -/
def turn (t : Turns) (side : Side) : Bool × Turns :=
  if t.pump.failure?.isSome ∨ (t.pump.copy side).phase ≠ .reading then (false, t)
  else
    let (source, sink) := t.ends side
    let polled := Sink.poll source sink
    let t := t.setEnds side polled.source polled.sink
    (polled.pauses, { t with pump := t.pump.run side polled.events })

/-- Both copies take turns, as long as a source pauses. -/
def rounds : Nat → Turns → Turns
  | 0, t => t
  | left + 1, t =>
    let (first, t) := t.turn .toBackend
    let (second, t) := t.turn .toClient
    if first || second then rounds left t else t

/-- Aborts both sinks, if the pump has failed. -/
def tearDown (t : Turns) : Turns :=
  match t.pump.failure? with
  | some e =>
    { t with backendSink := t.backendSink.obey (.abort e), clientSink := t.clientSink.obey (.abort e) }
  | none => t

/-- A whole run of the pump. Every round but the last takes a pause out of a source. -/
def run (t : Turns) : Turns :=
  (rounds (t.clientSource.length + t.backendSource.length + 1) t).tearDown

end Turns

/-- A whole run of one copy by itself, in turns as long as its source pauses. Nothing is aborted. -/
def Copy.runTurns : Nat → Copy → List SourceItem → Sink → List SinkCall → Copy × Sink × List SinkCall
  | 0, copy, _, sink, calls => (copy, sink, calls)
  | left + 1, copy, source, sink, calls =>
    let polled := Sink.poll source sink
    let (copy, calls) := polled.events.foldl
      (fun (s : Copy × List SinkCall) e => ((s.1.step e).1, s.2 ++ (s.1.step e).2)) (copy, calls)
    if polled.pauses then Copy.runTurns left copy polled.source polled.sink calls
    else (copy, polled.sink, calls)

/-- What one copy by itself gives, its sink and what was done to it. -/
def Copy.run (source : List SourceItem) (sink : Sink) : Copy × Sink × List SinkCall :=
  Copy.runTurns (source.length + 1) {} source sink []

end TrafficGateway
