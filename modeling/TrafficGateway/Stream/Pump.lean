import TrafficGateway.Stream.Channel

/-!
# Pumps

A streaming call copies frames in two directions at the same time, from the client to the backend and
back. A copy ends when its source ends, and then closes its sink. The first failure of either copy
stops both and aborts both sinks.

The machine here says what a copy does at each event, and leaves open when events occur: whatever the
sources, the sinks and the order of the turns are, a run is a list of events of the two sides.

## Main definitions

* `CopyEvent`: what can happen to a copy.
* `SinkCall`: what a copy does to its sink.
* `Copy`, `Copy.step`: a copy, and what it does at an event.
* `Pump`, `Pump.step`: both copies and all that was done to the sinks.
-/

namespace TrafficGateway

/-- What can happen to a copy. -/
inductive CopyEvent where
  /-- The source gave a frame and the sink has it. -/
  | delivered (frame : Frame)
  /-- The frame has gone through, and the copy can go on. -/
  | accepted
  /-- The source gave a frame and the sink refused it, at once or before it had gone through. -/
  | refused (error : ForwardError)
  /-- The source failed. -/
  | broken (error : ForwardError)
  /-- Whoever reads from the sink has gone. -/
  | abandoned
  /-- The source has ended. -/
  | ended
  deriving DecidableEq, Repr

/-- What is done to a sink. -/
inductive SinkCall where
  | send (frame : Frame)
  | close
  | abort (error : ForwardError)
  deriving DecidableEq, Repr

/-- How far a copy has come: it waits for its source, or for its sink to let a frame through; it has
ended, or failed. -/
inductive CopyPhase where
  | reading
  | sending
  | finished
  | failed (error : ForwardError)
  deriving DecidableEq, Repr

/-- A copy: how many frames have gone through, and how far it has come. -/
structure Copy where
  count : Nat := 0
  phase : CopyPhase := .reading
  deriving DecidableEq, Repr

namespace Copy

instance : Inhabited Copy := ⟨{}⟩

/-- Why a copy has failed, if it has. -/
def failure? (c : Copy) : Option ForwardError :=
  match c.phase with
  | .failed e => some e
  | _ => none

/-- The copy after an event, and what it does to its sink. Events that do not fit change nothing. -/
def step (c : Copy) (event : CopyEvent) : Copy × List SinkCall :=
  match c.phase, event with
  | .reading, .delivered frame => ({ c with phase := .sending }, [.send frame])
  | .sending, .accepted => ({ count := c.count + 1, phase := .reading }, [])
  | .sending, .refused e => ({ c with phase := .failed e }, [])
  | .reading, .refused e => ({ c with phase := .failed e }, [])
  | .reading, .broken e => ({ c with phase := .failed e }, [])
  | .reading, .abandoned => ({ c with phase := .failed FrameChannel.peerClosed }, [])
  | .reading, .ended => ({ c with phase := .finished }, [.close])
  | _, _ => (c, [])

end Copy

/-- The direction of a copy, which is named by its sink. -/
inductive Side where
  | toBackend
  | toClient
  deriving DecidableEq, Repr

/-- Both copies, and what was done to the sinks so far. -/
structure Pump where
  toBackend : Copy := {}
  toClient : Copy := {}
  calls : List (Side × SinkCall) := []
  deriving DecidableEq, Repr

namespace Pump

instance : Inhabited Pump := ⟨{}⟩

/-- The copy of a side. -/
def copy (p : Pump) : Side → Copy
  | .toBackend => p.toBackend
  | .toClient => p.toClient

/-- Replaces the copy of a side. -/
def setCopy (p : Pump) (side : Side) (copy : Copy) : Pump :=
  match side with
  | .toBackend => { p with toBackend := copy }
  | .toClient => { p with toClient := copy }

/-- Why the pump has failed, if it has. -/
def failure? (p : Pump) : Option ForwardError :=
  p.toBackend.failure?.or p.toClient.failure?

/-- Adds what was done to a sink. -/
def note (p : Pump) (side : Side) (calls : List SinkCall) : Pump :=
  { p with calls := p.calls ++ calls.map fun c => (side, c) }

/-- The pump after an event of one side. After a failure nothing happens any more. -/
def step (p : Pump) (side : Side) (event : CopyEvent) : Pump :=
  if p.failure?.isSome then p
  else
    let (copy, calls) := (p.copy side).step event
    let p := (p.setCopy side copy).note side calls
    match copy.failure? with
    | some e => (p.note .toBackend [.abort e]).note .toClient [.abort e]
    | none => p

/-- The pump after some events of one side. -/
def run (p : Pump) (side : Side) (events : List CopyEvent) : Pump :=
  events.foldl (fun p e => p.step side e) p

/-- What the pump gives: how many frames went to the backend and to the client, or the first failure;
`none` while it is running. -/
def outcome? (p : Pump) : Option (Except ForwardError (Nat × Nat)) :=
  match p.failure? with
  | some e => some (.error e)
  | none =>
    if p.toBackend.phase = .finished ∧ p.toClient.phase = .finished then
      some (.ok (p.toBackend.count, p.toClient.count))
    else none

end Pump

end TrafficGateway
