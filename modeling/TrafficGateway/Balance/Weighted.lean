import TrafficGateway.Balance.Error
import TrafficGateway.Balance.Node

/-!
# Weighted round robin

A selector that takes each node as often as its weight says, and interleaves heavy nodes with light
ones instead of taking the heaviest in one burst. A cursor walks over the nodes lap after lap. Each
lap has a threshold, which starts at the largest weight and sinks by the greatest common divisor of
the weights until it is spent; the cursor stops at the nodes whose weight reaches the threshold.

## Main definitions

* `WeightedRoundRobin`: nodes with positive weights and a cursor.
* `WeightedRoundRobin.step`: the cursor moved on by one node.
* `WeightedRoundRobin.seek`: the cursor moved on to the next node that reaches the threshold.
* `WeightedRoundRobin.select`: the node there, and the selector after the pick.
-/

namespace TrafficGateway

/-- Nodes with positive weights, the place of the cursor and the threshold of its lap. -/
structure WeightedRoundRobin (α : Type) where
  nodes : List (Node α)
  index : Nat
  threshold : Nat
  index_lt : index < nodes.length
  weight_pos : ∀ n ∈ nodes, 0 < n.weight

namespace WeightedRoundRobin

variable {α : Type}

/-- The greatest common divisor of the weights. -/
def stride (s : WeightedRoundRobin α) : Nat :=
  (s.nodes.map (·.weight)).foldl Nat.gcd 0

/-- The largest weight. -/
def maxWeight (s : WeightedRoundRobin α) : Nat :=
  (s.nodes.map (·.weight)).foldl Nat.max 0

/-- A selector over the nodes whose first pick starts a lap: the cursor stands on the last node with
a spent threshold. -/
def ofNodes (nodes : List (Node α)) : Except BackendError (WeightedRoundRobin α) :=
  if hne : nodes = [] then .error .noNodes
  else
    match hw : firstUnweighted nodes with
    | some node => .error (.invalidWeight node.id node.weight)
    | none =>
      .ok
        { nodes
          index := nodes.length - 1
          threshold := 0
          index_lt := by
            have := List.length_pos_iff.2 hne
            omega
          weight_pos := firstUnweighted_eq_none_iff.1 hw }

/-- The node under the cursor. -/
def current (s : WeightedRoundRobin α) : Node α :=
  s.nodes.get ⟨s.index, s.index_lt⟩

/-- The threshold of the lap after one with threshold `t`: lower by the stride, or the largest
weight when nothing is left. -/
def nextThreshold (s : WeightedRoundRobin α) (t : Nat) : Nat :=
  if t - s.stride = 0 then s.maxWeight else t - s.stride

/-- The cursor moved on by one node, which starts a lap when it comes to the first. -/
def step (s : WeightedRoundRobin α) : WeightedRoundRobin α :=
  { s with
    index := (s.index + 1) % s.nodes.length
    threshold :=
      if (s.index + 1) % s.nodes.length = 0 then s.nextThreshold s.threshold else s.threshold
    index_lt := Nat.mod_lt _ (Nat.lt_of_le_of_lt (Nat.zero_le _) s.index_lt) }

/-- The cursor moved on to the next node that reaches the threshold, over at most `laps` nodes. -/
def seek : Nat → WeightedRoundRobin α → WeightedRoundRobin α
  | 0, s => s
  | laps + 1, s =>
    let s' := s.step
    if s'.threshold ≤ s'.current.weight then s' else seek laps s'

/-- The selector after one pick. Once round all nodes is far enough: a lap with threshold at most
the largest weight stops at a heaviest node. -/
def advance (s : WeightedRoundRobin α) : WeightedRoundRobin α :=
  seek s.nodes.length s

/-- The next node, and the selector after the pick. -/
def select (s : WeightedRoundRobin α) : Node α × WeightedRoundRobin α :=
  (s.advance.current, s.advance)

end WeightedRoundRobin

end TrafficGateway
