import TrafficGateway.Balance.Error
import TrafficGateway.Balance.Node

/-!
# Round robin

A selector that takes its nodes in turn. Its place is a 64-bit counter that wraps, so the turn is
exact as long as the counter does not wrap between two picks.

## Main definitions

* `RoundRobin`: the nodes and the counter.
* `RoundRobin.select`: the node whose turn it is, and the selector after the pick.
-/

namespace TrafficGateway

/-- Nodes that are taken in turn, and how many picks have been made since the counter was zero. -/
structure RoundRobin (α : Type) where
  nodes : List (Node α)
  counter : UInt64
  deriving Repr

namespace RoundRobin

variable {α : Type}

/-- The place in the list whose turn it is. -/
def place (s : RoundRobin α) : Nat :=
  s.counter.toNat % s.nodes.length

/-- The selector after one pick. -/
def advance (s : RoundRobin α) : RoundRobin α :=
  { s with counter := s.counter + 1 }

/-- The node whose turn it is. Without nodes the selector fails and its counter stands still. -/
def select (s : RoundRobin α) : Except BackendError (Node α) × RoundRobin α :=
  match s.nodes[s.place]? with
  | some node => (.ok node, s.advance)
  | none => (.error .noNodes, s)

end RoundRobin

end TrafficGateway
