import TrafficGateway.Forward.Error
import TrafficGateway.Http.Response

/-!
# Frame channels

A body that is fed while it is read. The writer sends frames and in the end closes the channel, or
aborts it so that the reader sees an error. A channel holds a bounded number of items that nobody has
read, and when it is full there is no room for the error either.

## Main definitions

* `ChannelItem`: what a reader may find.
* `FrameChannel`: the items that are not read yet, and which of the two ends are still held.
* `FrameChannel.send`, `close`, `abort`: what the writer does.
* `FrameChannel.receive`, `dropReader`: what the reader does.
-/

namespace TrafficGateway

/-- A frame, or the error that a stream was aborted with. -/
inductive ChannelItem where
  | frame (frame : Frame)
  | failure (reason : String)
  deriving DecidableEq, Repr, Inhabited

/-- The items that are not read yet, oldest first; is the writer still there, and is the reader? -/
structure FrameChannel where
  items : List ChannelItem := []
  writing : Bool := true
  reading : Bool := true
  deriving DecidableEq, Repr, Inhabited

/-- How a frame fares that is sent. -/
inductive SendOutcome where
  /-- The channel has taken it. -/
  | taken
  /-- The channel has taken it and is full now; the sender waits for the reader. -/
  | takenLast
  /-- The channel was full already; the sender waits for the reader with the frame in hand. -/
  | waits
  /-- It cannot be sent any more. -/
  | refused (error : ForwardError)
  deriving DecidableEq, Repr

/-- What the reader finds. -/
inductive Received where
  | item (item : ChannelItem)
  | ended
  | pending
  /-- There is no reader any more. -/
  | gone
  deriving DecidableEq, Repr

namespace FrameChannel

/-- How many items a channel holds that nobody has read. -/
def capacity : Nat := 17

/-- Is there no room for another item? -/
def isFull (c : FrameChannel) : Bool :=
  capacity ≤ c.items.length

/-- Why nothing can be sent to a reader that has gone. -/
def peerClosed : ForwardError := .stream "peer closed the stream"

/-- Why nothing can be sent after the end. -/
def alreadyClosed : ForwardError := .stream "stream already closed"

/-- Puts an item behind the others. -/
def push (c : FrameChannel) (item : ChannelItem) : FrameChannel :=
  { c with items := c.items ++ [item] }

/-- Sends a frame. -/
def send (c : FrameChannel) (frame : Frame) : SendOutcome × FrameChannel :=
  if !c.writing then (.refused alreadyClosed, c)
  else if !c.reading then (.refused peerClosed, c)
  else if c.isFull then (.waits, c)
  else
    let c := c.push (.frame frame)
    (if c.isFull then .takenLast else .taken, c)

/-- Ends the stream. -/
def close (c : FrameChannel) : FrameChannel :=
  { c with writing := false }

/-- Breaks the stream off. The reader finds the error behind the frames, if there is room for it. -/
def abort (c : FrameChannel) (error : ForwardError) : FrameChannel :=
  if c.writing && c.reading && !c.isFull then (c.push (.failure error.message)).close else c.close

/-- Takes the next item out. -/
def receive (c : FrameChannel) : Received × FrameChannel :=
  if !c.reading then (.gone, c)
  else
    match c.items with
    | item :: items => (.item item, { c with items })
    | [] => (if c.writing then .pending else .ended, c)

/-- The reader goes, and what it has not read is lost. -/
def dropReader (c : FrameChannel) : FrameChannel :=
  { c with items := [], reading := false }

end FrameChannel

end TrafficGateway
